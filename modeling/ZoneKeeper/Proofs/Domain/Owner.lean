import Mathlib
import ZoneKeeper.Proofs.Domain.Grammar

namespace ZoneKeeper.Domain

theorem labels_append_dot (owner domain : Text) :
    labels (owner ++ 0x2E :: domain) = labels owner ++ labels domain :=
  List.splitOn_append_cons_self owner domain

section Owners
variable (domain : Text)

theorem ofOwner_apex : ofOwner "@" domain = domain := by
  rw [ofOwner, if_pos rfl]

theorem ofOwner_wildcard : ofOwner "*" domain = Text.ofString "any" ++ 0x2E :: domain := by
  have hname : Text.ofString "*" ≠ Text.ofString "@" := by decide +kernel
  have hany : Text.ofString "any." = Text.ofString "any" ++ [0x2E] := by decide +kernel
  rw [ofOwner, if_neg hname, if_pos rfl, hany, List.append_assoc]
  rfl

theorem ofOwner_of_ne {owner : Text} (hapex : owner ≠ Text.ofString "@")
    (hwildcard : owner ≠ Text.ofString "*") : ofOwner owner domain = owner ++ 0x2E :: domain := by
  have hdot : Text.ofString "." = [0x2E] := by decide +kernel
  rw [ofOwner, if_neg hapex, if_neg hwildcard, hdot, List.append_assoc]
  rfl

end Owners

/-- More labels in front of a valid name keep it valid if they are labels and the name does not grow
too long. The last label is told by the domain, and a name has two labels at least by it. -/
theorem isValid_append_dot_iff {domain : Text} (h : isValid domain = true) (owner : Text) :
    isValid (owner ++ 0x2E :: domain) = true ↔
      (owner ++ 0x2E :: domain).length ≤ 253 ∧ ∀ l ∈ labels owner, InnerLabel l := by
  obtain ⟨-, inner, top, hlabels, -, hinner, htop⟩ := isValid_iff_isName.mp h
  change labels domain = inner ++ [top] at hlabels
  have hsplit : labels (owner ++ 0x2E :: domain) = (labels owner ++ inner) ++ [top] := by
    rw [labels_append_dot, hlabels, List.append_assoc]
  have hne : labels owner ++ inner ≠ [] :=
    List.append_ne_nil_of_left_ne_nil (List.splitOn_ne_nil 0x2E owner) inner
  rw [isValid_iff_isName]
  constructor
  · rintro ⟨hlength, inner', top', hlabels', -, hinner', -⟩
    refine ⟨hlength, fun l hl => hinner' l ?_⟩
    have hfront : labels owner ++ inner = inner' :=
      (List.append_inj' (hsplit.symm.trans hlabels') rfl).1
    exact hfront ▸ List.mem_append_left inner hl
  · rintro ⟨hlength, howner⟩
    refine ⟨hlength, _, top, hsplit, hne, ?_, htop⟩
    exact List.forall_mem_append.mpr ⟨howner, hinner⟩

/-- Which owners a valid domain can have. The domain itself is always a valid name. Any other name
in it has to be short enough, and its owner stands for any label or is made of labels only. -/
theorem isValid_ofOwner_iff {domain : Text} (h : isValid domain = true) (owner : Text) :
    isValid (ofOwner owner domain) = true ↔
      owner = Text.ofString "@" ∨ (ofOwner owner domain).length ≤ 253 ∧
        (owner = Text.ofString "*" ∨ ∀ l ∈ owner.splitOn 0x2E, InnerLabel l) := by
  by_cases hapex : owner = Text.ofString "@"
  · subst hapex
    rw [ofOwner_apex]
    exact iff_of_true h (Or.inl rfl)
  by_cases hwildcard : owner = Text.ofString "*"
  · subst hwildcard
    have hany : ∀ l ∈ labels "any", InnerLabel l := by
      simp only [← isLabel_iff]
      decide +kernel
    rw [ofOwner_wildcard, isValid_append_dot_iff h]
    simp only [hapex, false_or, true_or, and_true, and_iff_left hany]
  · rw [ofOwner_of_ne domain hapex hwildcard, isValid_append_dot_iff h]
    simp only [hapex, hwildcard, false_or]
    rfl

/-- An owner of several labels with which the name is as long as names can be, and the same with one
unit more. -/
theorem isValid_ofOwner_iff_longest :
    let domain : Text := "example.com"
    let label (n : ℕ) : Text := List.replicate n 0x61
    let owner (n : ℕ) : Text := Text.join [0x2E] [label 63, label 63, label 63, label n]
    isValid domain = true ∧ isValid (ofOwner (owner 49) domain) = true ∧
      ¬ isValid (ofOwner (owner 50) domain) = true := by
  intro domain label owner
  have h : isValid domain = true := by decide +kernel
  refine ⟨h, (isValid_ofOwner_iff h _).mpr (Or.inr ⟨by decide +kernel, Or.inr ?_⟩), ?_⟩
  · simp only [← isLabel_iff]
    decide +kernel
  · rw [isValid_ofOwner_iff h]
    rintro (hapex | ⟨hlength, -⟩)
    · exact absurd hapex (by decide +kernel)
    · exact absurd hlength (by decide +kernel)

end ZoneKeeper.Domain
