import Mathlib
import ZoneKeeper.Text

namespace ZoneKeeper

namespace CodeUnit

theorem isLower_add_of_isUpper {u : CodeUnit} (h : u.isUpper = true) :
    CodeUnit.isLower (u + 0x20) = true := by
  simp only [isUpper, Bool.and_eq_true, decide_eq_true_eq, UInt16.le_iff_toNat_le] at h
  simp [isLower, UInt16.le_iff_toNat_le, UInt16.toNat_add] at h ⊢
  omega

theorem isUpper_eq_false_of_isLower {u : CodeUnit} (h : u.isLower = true) :
    u.isUpper = false := by
  simp only [isLower, isUpper, Bool.and_eq_true, Bool.and_eq_false_iff, decide_eq_true_eq,
    decide_eq_false_iff_not, UInt16.le_iff_toNat_le, UInt16.reduceToNat] at h ⊢
  omega

theorem isLower_toLower (u : CodeUnit) : u.toLower.isLower = u.isLetter := by
  by_cases h : u.isUpper = true
  · rw [toLower, if_pos h, isLower_add_of_isUpper h, isLetter, h, Bool.true_or]
  · rw [toLower, if_neg h, isLetter, Bool.eq_false_iff.mpr h, Bool.false_or]

theorem isUpper_toLower (u : CodeUnit) : u.toLower.isUpper = false := by
  by_cases h : u.isUpper = true
  · rw [toLower, if_pos h]
    exact isUpper_eq_false_of_isLower (isLower_add_of_isUpper h)
  · rw [toLower, if_neg h]
    exact Bool.eq_false_iff.mpr h

theorem toLower_toLower (u : CodeUnit) : u.toLower.toLower = u.toLower := by
  rw [toLower, isUpper_toLower]
  rfl

theorem isLetter_toLower (u : CodeUnit) : u.toLower.isLetter = u.isLetter := by
  rw [isLetter, isUpper_toLower, Bool.false_or, isLower_toLower]

theorem keeps_class {p : CodeUnit → Bool} (hp : ∀ v, p v = true → v.isLetter = false)
    (u : CodeUnit) : p u.toLower = p u := by
  have hnot : ∀ v : CodeUnit, v.isLetter = true → p v = false := by
    intro v hv
    by_contra hne
    rw [hp v (Bool.of_not_eq_false hne)] at hv
    exact Bool.false_ne_true hv
  cases h : u.isLetter with
  | true => rw [hnot u h, hnot _ ((isLetter_toLower u).trans h)]
  | false =>
    rw [isLetter, Bool.or_eq_false_iff] at h
    rw [toLower, h.1]
    rfl

theorem isDigit_toLower (u : CodeUnit) : u.toLower.isDigit = u.isDigit := by
  refine keeps_class (fun v hv => ?_) u
  simp only [isDigit, isLetter, isUpper, isLower, Bool.and_eq_true, Bool.or_eq_false_iff,
    Bool.and_eq_false_iff, decide_eq_true_eq, decide_eq_false_iff_not, UInt16.le_iff_toNat_le,
    UInt16.reduceToNat] at hv ⊢
  omega

theorem toLower_eq_iff {u v : CodeUnit} (hv : v.isLetter = false) : u.toLower = v ↔ u = v := by
  have hclass := keeps_class (p := fun w => w = v) (fun w hw => of_decide_eq_true hw ▸ hv) u
  exact decide_eq_decide.mp hclass

end CodeUnit

namespace Text

theorem toLower_toLower (t : Text) : t.toLower.toLower = t.toLower := by
  simp [toLower, CodeUnit.toLower_toLower]

theorem length_toLower (t : Text) : t.toLower.length = t.length := List.length_map ..

/-- Lowering a text lowers each of its parts, since no mark appears and none is lost. -/
theorem splitOn_toLower {mark : CodeUnit} (hmark : mark.isLetter = false) (t : Text) :
    t.toLower.splitOn mark = (t.splitOn mark).map toLower := by
  induction t with
  | nil => rfl
  | cons u rest ih =>
    have hu : (u.toLower == mark) = (u == mark) := by
      rw [Bool.eq_iff_iff, beq_iff_eq, beq_iff_eq, CodeUnit.toLower_eq_iff hmark]
    simp only [List.splitOn, toLower, List.map_cons, List.splitOnP_cons_eq_if_modifyHead,
      hu] at ih ⊢
    split_ifs with h
    · rw [ih, List.map_cons]
      rfl
    · rw [ih]
      cases List.splitOnP (fun x => x == mark) rest <;> rfl

end Text

end ZoneKeeper
