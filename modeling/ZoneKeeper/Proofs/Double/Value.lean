import Mathlib
import ZoneKeeper.Api.Status
import ZoneKeeper.Proofs.Double.Rounding

namespace ZoneKeeper.Double

def sign (negative : Bool) : ℤ := if negative then -1 else 1

def value? : Double → Option ℚ
  | finite negative m e _ => some (sign negative * m * 2 ^ e)
  | _ => none

def IsInteger (d : Double) : Prop := ∃ n : ℤ, d.value? = some (n : ℚ)

theorem dvd_sign_mul_iff (negative : Bool) (a m : ℤ) : a ∣ sign negative * m ↔ a ∣ m := by
  cases negative with
  | false => rw [sign, if_neg (by simp), one_mul]
  | true => rw [sign, if_pos rfl, neg_one_mul, dvd_neg]

/-- A significand that is shifted down stays whole if and only if nothing of it falls off. -/
theorem exists_integer_iff (negative : Bool) (m k : ℕ) :
    (∃ n : ℤ, (sign negative : ℚ) * m * (2 ^ k)⁻¹ = n) ↔ 2 ^ k ∣ m := by
  have hpos : (2 : ℚ) ^ k ≠ 0 := by positivity
  rw [← Int.natCast_dvd_natCast, ← dvd_sign_mul_iff negative]
  constructor
  · intro ⟨n, hn⟩
    have hcast : (sign negative : ℚ) * m = 2 ^ k * n := by
      rw [← hn]
      field_simp
    exact ⟨n, by exact_mod_cast hcast⟩
  · intro ⟨n, hn⟩
    have hcast : (sign negative : ℚ) * m = 2 ^ k * n := by exact_mod_cast hn
    refine ⟨n, ?_⟩
    rw [hcast]
    field_simp

theorem isWhole_iff (d : Double) : d.isWhole = true ↔ d.IsInteger := by
  cases d with
  | nan => simp [isWhole, IsInteger, value?]
  | infinite negative => simp [isWhole, IsInteger, value?]
  | finite negative m e h =>
    simp only [isWhole, IsInteger, value?, decide_eq_true_eq, Option.some.injEq, Nat.pow_eq,
      ← Nat.dvd_iff_mod_eq_zero]
    cases e with
    | ofNat k =>
      apply iff_of_true (by simp)
      exact ⟨sign negative * m * 2 ^ k, by simp⟩
    | negSucc k =>
      rw [zpow_negSucc, exists_integer_iff]
      rfl

theorem sign_inj_of_pos {negative negative' : Bool} {x y : ℚ} (hx : 0 < x) (hy : 0 < y)
    (h : sign negative * x = sign negative' * y) : negative = negative' ∧ x = y := by
  cases negative <;> cases negative' <;> simp [sign] at h ⊢ <;> linarith

/-- A magnitude has one significand and one exponent, so no two doubles but the zeros have one
value. -/
theorem eq_of_value? {d d' : Double} {v : ℚ} (hd : d.value? = some v) (hd' : d'.value? = some v)
    (hv : v ≠ 0) : d = d' := by
  have hpos : ∀ (negative : Bool) (m : ℕ) (e : ℤ), sign negative * m * (2 : ℚ) ^ e = v →
      0 < (m : ℚ) * 2 ^ e := by
    intro negative m e he
    have hm : m ≠ 0 := by
      rintro rfl
      exact hv (by rw [← he]; simp)
    positivity
  cases d with
  | finite negative m e h =>
    cases d' with
    | finite negative' m' e' h' =>
      have he := Option.some.inj hd
      have he' := Option.some.inj hd'
      have hsame := he.trans he'.symm
      rw [mul_assoc, mul_assoc] at hsame
      obtain ⟨rfl, hx⟩ := sign_inj_of_pos (hpos _ _ _ he) (hpos _ _ _ he') hsame
      have hnear : Near m' e' (m * 2 ^ e) := hx ▸ near_value m' e'
      obtain ⟨rfl, rfl⟩ := (near_value m e).unique h.toIsScaled h'.toIsScaled hnear
      rfl
    | infinite => exact absurd hd' (by simp [value?])
    | nan => exact absurd hd' (by simp [value?])
  | infinite => exact absurd hd (by simp [value?])
  | nan => exact absurd hd (by simp [value?])

/-- Success is the one status of its value. -/
theorem eq_ok_iff (s : Status) : s = Status.ok ↔ s.value? = some 200 := by
  have hok : Status.ok = finite false (200 * 2 ^ 45) (-45) (by decide) := by decide +kernel
  have hvalue : Status.ok.value? = some 200 := by
    rw [hok, value?, sign]
    norm_num
  constructor
  · rintro rfl
    exact hvalue
  · intro h
    exact eq_of_value? h hvalue (by norm_num)

end ZoneKeeper.Double
