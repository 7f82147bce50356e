import Mathlib
import ZoneKeeper.Text

namespace ZoneKeeper.Pattern

def unit (p : CodeUnit → Bool) : Language CodeUnit := {t | ∃ u, p u = true ∧ t = [u]}

/-- From `least` to `most` texts of a language in a row. -/
def between (least most : ℕ) (L : Language CodeUnit) : Language CodeUnit :=
  {t | ∃ n, least ≤ n ∧ n ≤ most ∧ t ∈ L ^ n}

def optional (L : Language CodeUnit) : Language CodeUnit := 1 + L

def literal (t : Text) : Language CodeUnit := {t}

variable {p : CodeUnit → Bool} {t : Text}

theorem mem_unit_pow {n : ℕ} :
    t ∈ unit p ^ n ↔ t.length = n ∧ ∀ u ∈ t, p u = true := by
  induction n generalizing t with
  | zero =>
    rw [pow_zero, Language.mem_one, List.length_eq_zero_iff]
    constructor
    · rintro rfl
      exact ⟨rfl, fun u hu => absurd hu List.not_mem_nil⟩
    · exact fun h => h.1
  | succ n ih =>
    rw [pow_succ', Language.mem_mul]
    constructor
    · rintro ⟨_, ⟨u, hu, rfl⟩, rest, hrest, rfl⟩
      obtain ⟨hlength, hall⟩ := ih.mp hrest
      exact ⟨by simp [hlength], List.forall_mem_cons.mpr ⟨hu, hall⟩⟩
    · rintro ⟨hlength, hall⟩
      obtain ⟨u, rest, rfl⟩ := List.exists_cons_of_length_eq_add_one hlength
      obtain ⟨hu, hrest⟩ := List.forall_mem_cons.mp hall
      exact ⟨[u], ⟨u, hu, rfl⟩, rest, ih.mpr ⟨Nat.succ.inj hlength, hrest⟩, rfl⟩

theorem mem_between_unit {least most : ℕ} :
    t ∈ between least most (unit p) ↔
      least ≤ t.length ∧ t.length ≤ most ∧ ∀ u ∈ t, p u = true := by
  constructor
  · rintro ⟨n, hleast, hmost, ht⟩
    obtain ⟨rfl, hall⟩ := mem_unit_pow.mp ht
    exact ⟨hleast, hmost, hall⟩
  · rintro ⟨hleast, hmost, hall⟩
    exact ⟨t.length, hleast, hmost, mem_unit_pow.mpr ⟨rfl, hall⟩⟩

theorem mem_optional {L : Language CodeUnit} : t ∈ optional L ↔ t = [] ∨ t ∈ L := by
  rw [optional, Language.mem_add, Language.mem_one]

end ZoneKeeper.Pattern
