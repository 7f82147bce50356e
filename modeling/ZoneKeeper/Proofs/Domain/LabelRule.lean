import Mathlib
import ZoneKeeper.Proofs.Domain.Grammar

namespace ZoneKeeper.Domain

/-- A label with hyphens inside only. -/
structure ObeysRule (l : Text) : Prop where
  length_pos : 1 ≤ l.length
  length_le : l.length ≤ 63
  first : l.head? ≠ some 0x2D
  last : l.getLast? ≠ some 0x2D

theorem InnerLabel.obeysRule {l : Text} (h : InnerLabel l) : ObeysRule l :=
  ⟨h.length_pos, h.length_le, h.first, h.last⟩

theorem isLetter_ne_hyphen {u : CodeUnit} (h : u.isLetter = true) : u ≠ 0x2D := by
  rintro rfl
  exact absurd h (by decide)

namespace TopLabel
variable {l : Text}

theorem length_bounds (h : TopLabel l) : 1 ≤ l.length ∧ l.length ≤ 63 := by
  cases h with
  | letters hmin hmax => omega
  | @encoded mark rest hmark hmin hmax =>
    have hlength : mark.length = 4 := length_of_mark hmark
    rw [List.length_append]
    omega

theorem first (h : TopLabel l) : l.head? ≠ some 0x2D := by
  cases h with
  | letters hmin hmax hall =>
    intro hhead
    exact isLetter_ne_hyphen (hall _ (List.mem_of_mem_head? hhead)) rfl
  | @encoded mark rest hmark hmin hmax hall =>
    have hfirst : mark.head?.map CodeUnit.toLower = some 0x78 := by
      rw [← List.head?_map]
      exact (congrArg List.head? hmark).trans (by decide +kernel)
    rw [List.head?_append, Ne, ← map_toLower_eq_hyphen]
    cases hhead : mark.head? with
    | none => simp [hhead] at hfirst
    | some u =>
      rw [hhead] at hfirst
      rw [Option.some_or, hfirst]
      decide

/-- Only what is encoded can end with a hyphen. -/
theorem mark_of_last (h : TopLabel l) (hlast : l.getLast? = some 0x2D) :
    Text.toLower (l.take 4) = encodedMark := by
  cases h with
  | letters hmin hmax hall =>
    exact absurd rfl (isLetter_ne_hyphen (hall _ (List.mem_of_getLast? hlast)))
  | @encoded mark rest hmark hmin hmax hall =>
    have hlength : mark.length = 4 := length_of_mark hmark
    rw [List.take_left' hlength, hmark]

end TopLabel

theorem getLast?_of_labels {name top : Text} {inner : List Text}
    (h : labels name = inner ++ [top]) (hinner : inner ≠ []) (htop : top ≠ []) :
    name.getLast? = top.getLast? := by
  rw [← join_labels name, h, Text.join_concat hinner, List.getLast?_append_of_ne_nil _ htop]

/-- Every label of a valid name keeps the rule, but that an encoded top label can end with a hyphen;
so a valid name keeps the rule in all labels exactly if it does not end with a hyphen itself. -/
theorem obeysRule_iff {name : Text} (h : isValid name = true) :
    (∀ l ∈ labels name, 1 ≤ l.length ∧ l.length ≤ 63 ∧ l.head? ≠ some 0x2D) ∧
    (∀ l ∈ labels name, l.getLast? = some 0x2D →
      (∃ inner, labels name = inner ++ [l]) ∧ Text.toLower (l.take 4) = encodedMark) ∧
    ((∀ l ∈ labels name, ObeysRule l) ↔ name.getLast? ≠ some 0x2D) := by
  obtain ⟨-, inner, top, hlabels, hne, hinner, htop⟩ := isValid_iff_isName.mp h
  change labels name = inner ++ [top] at hlabels
  obtain ⟨hpos, hle⟩ := htop.length_bounds
  have hend : name.getLast? = top.getLast? :=
    getLast?_of_labels hlabels hne (List.ne_nil_of_length_pos hpos)
  have hmem : ∀ l, l ∈ labels name ↔ l ∈ inner ∨ l = top := by
    intro l
    rw [hlabels, List.mem_append, List.mem_singleton]
  refine ⟨?_, ?_, ?_⟩
  · intro l hl
    rcases (hmem l).mp hl with hl | rfl
    · exact ⟨(hinner l hl).length_pos, (hinner l hl).length_le, (hinner l hl).first⟩
    · exact ⟨hpos, hle, htop.first⟩
  · intro l hl hlast
    rcases (hmem l).mp hl with hl | rfl
    · exact absurd hlast (hinner l hl).last
    · exact ⟨⟨inner, hlabels⟩, htop.mark_of_last hlast⟩
  · constructor
    · intro hall
      rw [hend]
      exact (hall top ((hmem top).mpr (Or.inr rfl))).last
    · intro hlast l hl
      rcases (hmem l).mp hl with hl | rfl
      · exact (hinner l hl).obeysRule
      · exact ⟨hpos, hle, htop.first, hend ▸ hlast⟩

/-- An encoded top label may have hyphens side by side. -/
theorem obeysRule_iff_encoded :
    let name : Text := "my-host.xn--a--b"
    isValid name = true ∧
    (∀ l ∈ labels name, 1 ≤ l.length ∧ l.length ≤ 63 ∧ l.head? ≠ some 0x2D) ∧
    (∀ l ∈ labels name, l.getLast? = some 0x2D →
      (∃ inner, labels name = inner ++ [l]) ∧ Text.toLower (l.take 4) = encodedMark) ∧
    ((∀ l ∈ labels name, ObeysRule l) ↔ name.getLast? ≠ some 0x2D) := by
  intro name
  have h : isValid name = true := by decide +kernel
  exact ⟨h, obeysRule_iff h⟩

/-- Not every label of a valid name keeps the rule: a name passes whose top label ends with a
hyphen. -/
theorem hyphen_ends_top_label :
    ¬ ∀ name, isValid name = true → ∀ l ∈ labels name, ObeysRule l := by
  intro h
  have hlabel : Text.ofString "xn--a-" ∈ labels "example.xn--a-" := by decide +kernel
  exact (h "example.xn--a-" (by decide +kernel) _ hlabel).last (by decide +kernel)

end ZoneKeeper.Domain
