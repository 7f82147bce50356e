import Mathlib
import ZoneKeeper.Domain
import ZoneKeeper.Proofs.Text.Case
import ZoneKeeper.Proofs.Text.Parts
import ZoneKeeper.Proofs.Text.SingleLine

namespace ZoneKeeper.Domain

theorem join_labels (name : Text) : Text.join [0x2E] (labels name) = name :=
  List.intercalate_splitOn 0x2E

theorem isNameUnit_of_isLabel {l : Text} (h : isLabel l = true) :
    ∀ u ∈ l, isNameUnit u = true := by
  simp only [isLabel, Bool.and_eq_true, List.all_eq_true] at h
  exact h.1.1.2

theorem toLower_eq_hyphen {u : CodeUnit} : u.toLower = 0x2D ↔ u = 0x2D :=
  CodeUnit.toLower_eq_iff (by decide)

theorem toLower_eq_lowLine {u : CodeUnit} : u.toLower = 0x5F ↔ u = 0x5F :=
  CodeUnit.toLower_eq_iff (by decide)

theorem isNameUnit_toLower (u : CodeUnit) : isNameUnit u.toLower = isNameUnit u := by
  simp only [isNameUnit, CodeUnit.isLetter_toLower, CodeUnit.isDigit_toLower, toLower_eq_hyphen,
    toLower_eq_lowLine]

theorem isNameUnit_of_isTopLabel {l : Text} (h : isTopLabel l = true) :
    ∀ u ∈ l, isNameUnit u = true := by
  simp only [isTopLabel, Bool.or_eq_true, Bool.and_eq_true, decide_eq_true_eq,
    List.all_eq_true] at h
  intro u hu
  rcases h with ⟨-, hletters⟩ | ⟨⟨-, hmark⟩, hrest⟩
  · simp [isNameUnit, hletters u hu]
  -- Four units are the mark in some spelling, and the others are named in the class.
  · rw [← List.take_append_drop 4 l, List.mem_append] at hu
    rcases hu with hu | hu
    · have hlow : u.toLower ∈ encodedMark := hmark ▸ List.mem_map_of_mem hu
      have hall : encodedMark.all isNameUnit = true := by decide +kernel
      rw [← isNameUnit_toLower]
      exact List.all_eq_true.mp hall _ hlow
    · rcases hrest u hu with (hletter | hdigit) | hhyphen
      · simp [isNameUnit, hletter]
      · simp [isNameUnit, hdigit]
      · simp [isNameUnit, hhyphen]

theorem isNameUnit_of_isValid {name : Text} (h : isValid name = true) {u : CodeUnit}
    (hu : u ∈ name) : u = 0x2E ∨ isNameUnit u = true := by
  rw [← join_labels name] at hu
  rcases Text.mem_join hu with hu | ⟨l, hl, hu⟩
  · exact Or.inl (List.mem_singleton.mp hu)
  · right
    rw [isValid, Bool.and_eq_true] at h
    have hlabels := h.2
    rw [← List.mem_reverse] at hl
    cases hr : (labels name).reverse with
    | nil => exact absurd (hr ▸ hl) List.not_mem_nil
    | cons top inner =>
      rw [hr] at hl hlabels
      simp only [Bool.and_eq_true, List.all_eq_true] at hlabels
      rcases List.mem_cons.mp hl with rfl | hl
      · exact isNameUnit_of_isTopLabel hlabels.1.1 u hu
      · exact isNameUnit_of_isLabel (hlabels.2 l hl) u hu

/-- The units of a name, with the dots between its labels, lie close together. -/
theorem range_of_mem {name : Text} (h : isValid name = true) {u : CodeUnit} (hu : u ∈ name) :
    0x2D ≤ u.toNat ∧ u.toNat ≤ 0x7A := by
  rcases isNameUnit_of_isValid h hu with rfl | hname
  · decide
  · simp only [isNameUnit, CodeUnit.isLetter, CodeUnit.isUpper, CodeUnit.isLower,
      CodeUnit.isDigit, Bool.or_eq_true, Bool.and_eq_true, decide_eq_true_eq,
      UInt16.le_iff_toNat_le, ← UInt16.toNat_inj, UInt16.reduceToNat] at hname
    omega

theorem oneLine_of_isValid {name : Text} (h : isValid name = true) : name.OneLine := by
  intro u hu
  have hrange := range_of_mem h hu
  simp only [CodeUnit.breaksLine, Bool.or_eq_false_iff, decide_eq_false_iff_not,
    UInt16.le_iff_toNat_le, ← UInt16.toNat_inj, UInt16.reduceToNat]
  omega

end ZoneKeeper.Domain
