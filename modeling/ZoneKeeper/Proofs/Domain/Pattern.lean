import Mathlib
import ZoneKeeper.Domain
import ZoneKeeper.Proofs.Text.Pattern

namespace ZoneKeeper.Domain
open Pattern

def isSmallWordUnit (u : CodeUnit) : Bool := u.isLower || u.isDigit || u = 0x5F

def isSmallNameUnit (u : CodeUnit) : Bool := isSmallWordUnit u || u = 0x2D

def isSmallEncodedUnit (u : CodeUnit) : Bool := u.isLower || u.isDigit || u = 0x2D

/-- A unit that is no hyphen, and maybe up to 62 more of which the last is no hyphen. -/
def labelPattern : Language CodeUnit :=
  unit isSmallWordUnit *
    optional (between 0 61 (unit isSmallNameUnit) * unit isSmallWordUnit)

/-- Letters only, or the mark of an encoded label with more behind it. -/
def topLabelPattern : Language CodeUnit :=
  between 2 63 (unit CodeUnit.isLower) +
    literal encodedMark * between 1 59 (unit isSmallEncodedUnit)

theorem isSmallWordUnit_iff {u : CodeUnit} :
    isSmallWordUnit u = true ↔ isSmallNameUnit u = true ∧ u ≠ 0x2D := by
  have hhyphen : isSmallWordUnit 0x2D = false := by decide
  constructor
  · intro h
    refine ⟨by simp [isSmallNameUnit, h], ?_⟩
    rintro rfl
    exact Bool.false_ne_true (hhyphen.symm.trans h)
  · rintro ⟨h, hne⟩
    simpa [isSmallNameUnit, hne] using h

theorem mem_labelPattern {t : Text} :
    t ∈ labelPattern ↔ 1 ≤ t.length ∧ t.length ≤ 63 ∧ (∀ u ∈ t, isSmallNameUnit u = true) ∧
      t.head? ≠ some 0x2D ∧ t.getLast? ≠ some 0x2D := by
  rw [labelPattern, Language.mem_mul]
  constructor
  · rintro ⟨_, ⟨first, hfirst, rfl⟩, rest, hrest, rfl⟩
    obtain ⟨hname, hne⟩ := isSmallWordUnit_iff.mp hfirst
    rcases mem_optional.mp hrest with rfl | hrest
    · simp [hname, hne]
    · obtain ⟨middle, hmiddle, _, ⟨last, hlast, rfl⟩, rfl⟩ := Language.mem_mul.mp hrest
      obtain ⟨-, hlength, hall⟩ := mem_between_unit.mp hmiddle
      obtain ⟨hname', hne'⟩ := isSmallWordUnit_iff.mp hlast
      refine ⟨by simp, by simp; omega, ?_, by simpa using hne, ?_⟩
      · simpa [or_imp, forall_and] using ⟨hname, hall, hname'⟩
      · rw [← List.append_assoc, List.getLast?_concat]
        simpa using hne'
  · rintro ⟨hpos, hlength, hall, hhead, hlast⟩
    obtain ⟨first, rest, rfl⟩ := List.exists_cons_of_length_pos hpos
    have hfirst : isSmallWordUnit first = true :=
      isSmallWordUnit_iff.mpr ⟨hall _ List.mem_cons_self, by simpa using hhead⟩
    refine ⟨[first], ⟨first, hfirst, rfl⟩, rest, mem_optional.mpr ?_, rfl⟩
    -- Either there is no more, or what is left has a last unit.
    rcases List.eq_nil_or_concat rest with rfl | ⟨middle, last, rfl⟩
    · exact Or.inl rfl
    · right
      rw [List.concat_eq_append, ← List.cons_append, List.getLast?_concat] at hlast
      have hend : isSmallWordUnit last = true :=
        isSmallWordUnit_iff.mpr ⟨hall _ (by simp), by simpa using hlast⟩
      refine Language.mem_mul.mpr ⟨middle, mem_between_unit.mpr ⟨by simp, ?_, ?_⟩, [last],
        ⟨last, hend, rfl⟩, by simp⟩
      · simp at hlength
        omega
      · exact fun u hu => hall u (by simp [hu])

theorem mem_topLabelPattern {t : Text} :
    t ∈ topLabelPattern ↔ (2 ≤ t.length ∧ t.length ≤ 63 ∧ ∀ u ∈ t, u.isLower = true) ∨
      ∃ rest, t = encodedMark ++ rest ∧ 1 ≤ rest.length ∧ rest.length ≤ 59 ∧
        ∀ u ∈ rest, isSmallEncodedUnit u = true := by
  rw [topLabelPattern, Language.mem_add, mem_between_unit, Language.mem_mul]
  refine or_congr_right ?_
  constructor
  · rintro ⟨_, rfl, rest, hrest, rfl⟩
    exact ⟨rest, rfl, mem_between_unit.mp hrest⟩
  · rintro ⟨rest, rfl, hrest⟩
    exact ⟨encodedMark, rfl, rest, mem_between_unit.mpr hrest, rfl⟩

end ZoneKeeper.Domain
