import Mathlib
import ZoneKeeper.Proofs.Text.Trim

namespace ZoneKeeper

/-- A control of ASCII or a separator of lines. -/
def CodeUnit.breaksLine (u : CodeUnit) : Bool :=
  u ≤ 0x1F || u = 0x7F || u = 0x2028 || u = 0x2029

namespace Text

def OneLine (t : Text) : Prop := ∀ u ∈ t, u.breaksLine = false

instance (t : Text) : Decidable t.OneLine :=
  decidable_of_iff (t.all (!·.breaksLine) = true) (by simp [OneLine])

theorem oneLine_append {s t : Text} : OneLine (s ++ t) ↔ OneLine s ∧ OneLine t :=
  List.forall_mem_append

theorem mem_squeeze {p : CodeUnit → Bool} {t : Text} {u : CodeUnit} (h : u ∈ squeeze p t) :
    u = 0x20 ∨ u ∈ t ∧ p u = false := by
  induction t with
  | nil => exact absurd h List.not_mem_nil
  | cons v r ih =>
    have hrest : u ∈ squeeze p r → u = 0x20 ∨ u ∈ v :: r ∧ p u = false := by
      intro hu
      exact (ih hu).imp_right fun ⟨hm, hp⟩ => ⟨List.mem_cons_of_mem v hm, hp⟩
    rw [squeeze] at h
    split_ifs at h with hv hr
    · exact hrest h
    -- The run ends here, and one space stands for all of it.
    · rcases List.mem_cons.mp h with rfl | h
      · exact Or.inl rfl
      · exact hrest h
    · rcases List.mem_cons.mp h with rfl | h
      · exact Or.inr ⟨List.mem_cons_self, by simpa using hv⟩
      · exact hrest h

theorem breaksLine_eq_false {u : CodeUnit} (hblank : u.isBlank = false)
    (hcontrol : u.isControl = false) : u.breaksLine = false := by
  simp only [CodeUnit.isBlank, CodeUnit.isControl, CodeUnit.breaksLine, Bool.or_eq_false_iff,
    decide_eq_false_iff_not] at hblank hcontrol ⊢
  tauto

theorem mem_singleLine {t : Text} {u : CodeUnit} (h : u ∈ singleLine t) :
    u = 0x20 ∨ u.isBlank = false ∧ u.isControl = false := by
  rcases mem_squeeze (trim_subset _ h) with hspace | ⟨hu, hblank⟩
  · exact Or.inl hspace
  · exact (mem_squeeze hu).imp_right fun ⟨_, hcontrol⟩ => ⟨hblank, hcontrol⟩

theorem oneLine_singleLine (t : Text) : OneLine (singleLine t) := by
  intro u hu
  rcases mem_singleLine hu with rfl | ⟨hblank, hcontrol⟩
  · rfl
  · exact breaksLine_eq_false hblank hcontrol

end Text

end ZoneKeeper
