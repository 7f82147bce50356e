import Mathlib
import ZoneKeeper.Proofs.Double.Grid
import ZoneKeeper.Proofs.Double.Numeral

namespace ZoneKeeper.Double

/-- The double that the digits of an integer are read as. -/
def ofInt (n : ℤ) : Double := ofScientific (decide (n < 0)) n.natAbs 0

/-- Of the integers that are read as one double, the one with the most zeros at its end, and of
several with as many the nearest. -/
structure Shortest (n : ℤ) : Prop where
  zeros : ∀ q, ofInt q = ofInt n → ∀ j, 10 ^ j ∣ q → 10 ^ j ∣ n
  nearest : ∀ q v, ofInt q = ofInt n → (∀ j, 10 ^ j ∣ n → 10 ^ j ∣ q) → (ofInt n).value? = some v →
    |(n : ℚ) - v| ≤ |(q : ℚ) - v|

structure IsShortest (m : ℕ) (e : ℤ) (a : ℕ) : Prop where
  near : Near m e a
  zeros : ∀ q : ℕ, Near m e q → ∀ j, 10 ^ j ∣ q → 10 ^ j ∣ a
  nearest : ∀ q : ℕ, Near m e q → (∀ j, 10 ^ j ∣ a → 10 ^ j ∣ q) →
    |(a : ℚ) - m * 2 ^ e| ≤ |(q : ℚ) - m * 2 ^ e|

section Natural
variable {m a b : ℕ} {e : ℤ}

/-- The numbers that round to one double are no further apart than doubles are there. -/
theorem Near.sub_le {x y : ℚ} (hx : Near m e x) (hy : Near m e y) : y - x ≤ 2 ^ e := by
  have hlow := (quarters_subset hx).1
  have hhigh := (quarters_subset hy).2
  have hm : (4 * m : ℚ) ≤ lowQuarters m e + 2 := by exact_mod_cast lowQuarters_le m e
  have hdiff : (y - x) / 2 ^ (e - 2) ≤ 4 := by
    rw [sub_div]
    linarith
  rw [div_le_iff₀ (by positivity), zpow_sub₀ (by norm_num)] at hdiff
  linarith

/-- Two neighbours on a grid that is no coarser than doubles are, do not lie symmetrically around
one of them. -/
theorem add_ne_of_neighbours {j x : ℕ} (h : (10 : ℚ) ^ j ≤ 2 ^ e) :
    ((10 ^ j * x : ℕ) + (10 ^ j * (x + 1) : ℕ) : ℚ) ≠ 2 * (m * 2 ^ e) := by
  have hone : (1 : ℚ) ≤ 10 ^ j := one_le_pow₀ (by norm_num)
  have he : 0 ≤ e := by
    by_contra! hneg
    have := zpow_lt_one_of_neg₀ (by norm_num : (1 : ℚ) < 2) hneg
    linarith
  obtain ⟨k, rfl⟩ := Int.eq_ofNat_of_zero_le he
  have hpow : 10 ^ j ≤ 2 ^ k := by exact_mod_cast h
  have hjk : j ≤ k := by
    apply (Nat.pow_le_pow_iff_right (by norm_num : 1 < 2)).mp
    exact (Nat.pow_le_pow_left (by norm_num) j).trans hpow
  obtain ⟨d, rfl⟩ := Nat.exists_eq_add_of_le hjk
  intro heq
  have hsum : 10 ^ j * x + 10 ^ j * (x + 1) = 2 * (m * 2 ^ (j + d)) := by exact_mod_cast heq
  -- Twice the middle holds one factor two more than its two neighbours together.
  have hcancel : 5 ^ j * (2 * x + 1) = 2 * (m * 2 ^ d) := by
    apply Nat.eq_of_mul_eq_mul_left (by positivity : 0 < 2 ^ j)
    calc 2 ^ j * (5 ^ j * (2 * x + 1)) = (2 * 5) ^ j * (2 * x + 1) := by rw [mul_pow, mul_assoc]
      _ = 10 ^ j * x + 10 ^ j * (x + 1) := by ring
      _ = 2 * (m * 2 ^ (j + d)) := hsum
      _ = 2 ^ j * (2 * (m * 2 ^ d)) := by ring
  have hodd : Odd (5 ^ j * (2 * x + 1)) :=
    (Odd.pow (by decide)).mul (odd_two_mul_add_one x)
  exact Nat.not_even_iff_odd.mpr hodd (hcancel ▸ even_two_mul _)

theorem le_of_pow_dvd {i j y : ℕ} (hy : ¬ 10 ∣ y) (h : 10 ^ i ∣ 10 ^ j * y) : i ≤ j := by
  by_contra! hlt
  apply hy
  apply Nat.dvd_of_mul_dvd_mul_left (by positivity : 0 < 10 ^ j)
  rw [← pow_succ]
  exact (pow_dvd_pow 10 hlt).trans h

theorem IsShortest.not_lt (ha : IsShortest m e a) (hb : IsShortest m e b) : ¬ a < b := by
  intro hlt
  -- Both end in as many zeros, so neither is nearer: the double lies in the middle between them.
  have hdist : |(a : ℚ) - m * 2 ^ e| = |(b : ℚ) - m * 2 ^ e| :=
    le_antisymm (ha.nearest b hb.near fun j => hb.zeros a ha.near j)
      (hb.nearest a ha.near fun j => ha.zeros b hb.near j)
  have hlt' : (a : ℚ) < b := by exact_mod_cast hlt
  have hmiddle : (a : ℚ) + b = 2 * (m * 2 ^ e) := by
    rcases abs_eq_abs.mp hdist with heq | heq
    · linarith
    · linarith
  obtain ⟨j, y, hy, rfl⟩ := Nat.exists_eq_pow_mul_and_not_dvd (by omega : b ≠ 0) 10 (by norm_num)
  obtain ⟨x, rfl⟩ := ha.zeros _ hb.near j (dvd_mul_right _ _)
  have hxy : x < y := Nat.lt_of_mul_lt_mul_left hlt
  rcases Nat.eq_or_lt_of_le (Nat.succ_le_of_lt hxy) with rfl | hgap
  · apply add_ne_of_neighbours (x := x) _ hmiddle
    have hsub := ha.near.sub_le hb.near
    push_cast at hsub
    linarith
  · -- A point of the grid between the two would be nearer than both.
    have hleft : (10 ^ j * x : ℕ) < (10 ^ j * (x + 1) : ℕ) := by gcongr; omega
    have hright : (10 ^ j * (x + 1) : ℕ) < (10 ^ j * y : ℕ) := by gcongr
    have hleft' : ((10 ^ j * x : ℕ) : ℚ) < (10 ^ j * (x + 1) : ℕ) := by exact_mod_cast hleft
    have hright' : ((10 ^ j * (x + 1) : ℕ) : ℚ) < (10 ^ j * y : ℕ) := by exact_mod_cast hright
    have hnear := hb.nearest (10 ^ j * (x + 1))
      (ha.near.between hb.near hleft'.le hright'.le)
      fun i hi => (pow_dvd_pow 10 (le_of_pow_dvd hy hi)).trans (dvd_mul_right _ _)
    have hfar : |((10 ^ j * (x + 1) : ℕ) : ℚ) - m * 2 ^ e| <
        |((10 ^ j * y : ℕ) : ℚ) - m * 2 ^ e| := by
      rw [abs_of_pos (by linarith : ((10 ^ j * y : ℕ) : ℚ) - m * 2 ^ e > 0), abs_lt]
      constructor <;> linarith
    linarith

theorem IsShortest.unique (ha : IsShortest m e a) (hb : IsShortest m e b) : a = b := by
  rcases lt_trichotomy a b with hlt | heq | hgt
  · exact absurd hlt (ha.not_lt hb)
  · exact heq
  · exact absurd hgt (hb.not_lt ha)

theorem significand_pos (h : IsScaled m e) (ha : 0 < a) (hx : Near m e a) : 0 < m := by
  by_contra! hm
  obtain rfl := Nat.le_zero.mp hm
  obtain rfl : e = -1074 := h.full.resolve_left (by norm_num)
  have hhigh := (quarters_subset hx).2
  rw [div_le_iff₀ (by positivity)] at hhigh
  have hone : (1 : ℚ) ≤ a := by exact_mod_cast ha
  have hsmall : (2 : ℚ) ^ (-1074 - 2 : ℤ) ≤ 1 / 4 := by
    calc (2 : ℚ) ^ (-1074 - 2 : ℤ) ≤ 2 ^ (-2 : ℤ) :=
          zpow_le_zpow_right₀ (by norm_num) (by omega)
      _ = 1 / 4 := by norm_num
  generalize (2 : ℚ) ^ (-1074 - 2 : ℤ) = last at hhigh hsmall
  rw [Nat.cast_zero] at hhigh
  linarith

theorem exponent_nonpos (h : IsScaled m e) (hx : Near m e a) (ha : a < 2 ^ 53) : e ≤ 0 := by
  by_contra! he
  have hlow := (quarters_subset hx).1
  have hfull : (2 ^ 54 : ℚ) ≤ lowQuarters m e + 1 := by
    have hm := h.full.resolve_right (by omega)
    exact_mod_cast two_pow_54_le_lowQuarters hm (by omega)
  have hpow : (1 / 2 : ℚ) ≤ 2 ^ (e - 2) := by
    calc (1 / 2 : ℚ) = 2 ^ (-1 : ℤ) := by norm_num
      _ ≤ 2 ^ (e - 2) := zpow_le_zpow_right₀ (by norm_num) (by omega)
  have ha' : (a : ℚ) + 1 ≤ 2 ^ 53 := by exact_mod_cast ha
  rw [le_div_iff₀ (by positivity)] at hlow
  nlinarith

theorem Near.eq_of_exponent_nonpos (he : e ≤ 0) (ha : Near m e a) (hb : Near m e b) : a = b := by
  rcases he.lt_or_eq with hlt | rfl
  · have hhalf : (2 : ℚ) ^ e ≤ 1 / 2 := by
      calc (2 : ℚ) ^ e ≤ 2 ^ (-1 : ℤ) := zpow_le_zpow_right₀ (by norm_num) (by omega)
        _ = 1 / 2 := by norm_num
    have hab : (b : ℚ) < a + 1 := by linarith [ha.sub_le hb]
    have hba : (a : ℚ) < b + 1 := by linarith [hb.sub_le ha]
    norm_cast at hab hba
    omega
  · -- The ends of the interval of an integer are halves.
    have hint {x : ℕ} (hx : Near m 0 x) : x = m := by
      have hm := lowQuarters_le m 0
      obtain ⟨hlow, hhigh⟩ := quarters_subset hx
      rw [show (x : ℚ) / 2 ^ (0 - 2 : ℤ) = 4 * x by norm_num; ring] at hlow hhigh
      norm_cast at hlow hhigh
      omega
    rw [hint ha, hint hb]

theorem isShortest_of_lt (h : IsScaled m e) (hx : Near m e a) (ha : a < 2 ^ 53) :
    IsShortest m e a := by
  have heq {q : ℕ} (hq : Near m e q) : q = a :=
    hq.eq_of_exponent_nonpos (exponent_nonpos h hx ha) hx
  exact ⟨hx, fun q hq j hj => heq hq ▸ hj, fun q hq _ => by rw [heq hq]⟩

/-- The search finds the shortest of the natural numbers that round to a double. -/
theorem isShortest_shortest (h : IsScaled m e) (he : e ≤ 971) (ha : 0 < a) (hx : Near m e a) :
    ∃ c k : ℕ, shortest m e = (c, (k : ℤ)) ∧ IsShortest m e (c * 10 ^ k) := by
  have hm : 0 < m := significand_pos h ha hx
  obtain ⟨c, k, hs, hk, hnear, hnearest, hcoarser⟩ :=
    shortest_spec h hm he (x := a) (j := 0) (by norm_num) (by simpa using hx)
  obtain ⟨k, rfl⟩ := Int.eq_ofNat_of_zero_le hk
  have hcast (x i : ℕ) : ((x * 10 ^ i : ℕ) : ℚ) = x * 10 ^ (i : ℤ) := by
    rw [zpow_natCast, Nat.cast_mul, Nat.cast_pow, Nat.cast_ofNat]
  refine ⟨c, k, hs, by rwa [hcast], ?_, ?_⟩
  · intro q hq j hj
    obtain ⟨x, rfl⟩ := hj
    have hjk : j ≤ k := by
      by_contra! hlt
      apply hcoarser x j (by exact_mod_cast hlt)
      rwa [← hcast, mul_comm]
    exact (pow_dvd_pow 10 hjk).trans (dvd_mul_left _ _)
  · intro q hq hdvd
    obtain ⟨x, rfl⟩ := hdvd k (dvd_mul_left _ _)
    rw [mul_comm, hcast] at hq
    rw [mul_comm (10 ^ k), hcast, hcast]
    exact hnearest x hq

end Natural

section Reading
variable {n q : ℤ} {k m : ℕ} {e : ℤ} {negative negative' : Bool} {hs : IsNormal m e}

theorem ofScientific_natural (hk : 0 < k) :
    ∃ m e, IsScaled m e ∧ Near m e k ∧ ∀ negative,
      ofScientific negative k 0 = ofMagnitude negative m e := by
  obtain ⟨m, e, h, hnear, hof⟩ := ofQuotient_eq hk (one_pos : 0 < 1)
  rw [Nat.cast_one, div_one] at hnear
  refine ⟨m, e, h, hnear, fun negative => ?_⟩
  have hquotient : ofScientific negative k 0 =
      if 310 < (0 : ℤ) + (Nat.toDigits 10 k).length then infinite negative
      else ofQuotient negative k 1 := by
    unfold ofScientific
    rw [if_neg (by omega)]
    simp
  rw [hquotient, hof]
  split_ifs with hlong
  · rw [ofMagnitude_of_lt]
    by_contra! he
    have hlarge : 10 ^ 310 ≤ k := by
      by_contra! hlt
      have := (Nat.length_toDigits_le_iff (by norm_num) (by norm_num)).mpr hlt
      omega
    have hlarge' : (10 : ℚ) ^ 310 ≤ k := by exact_mod_cast hlarge
    exact absurd (hnear.lt h he) (not_lt.mpr (two_pow_1024_le.trans hlarge'))
  · rfl

theorem ofScientific_natural_eq_iff (hk : 0 < k) :
    ofScientific negative k 0 = finite negative' m e hs ↔ negative = negative' ∧ Near m e k := by
  obtain ⟨m', e', h', hnear', hof⟩ := ofScientific_natural hk
  rw [hof]
  constructor
  · intro h
    by_cases he : 971 < e'
    · rw [ofMagnitude_of_lt he] at h
      exact Double.noConfusion h
    · rw [ofMagnitude_of_normal ⟨h', by omega⟩] at h
      obtain ⟨rfl, rfl, rfl⟩ := finite.inj h
      exact ⟨rfl, hnear'⟩
  · rintro ⟨rfl, hnear⟩
    obtain ⟨rfl, rfl⟩ := hnear.unique hs.toIsScaled h' hnear'
    exact ofMagnitude_of_normal hs negative

theorem sign_mul_natAbs (n : ℤ) : sign (decide (n < 0)) * n.natAbs = n := by
  unfold sign
  split_ifs with h
  · rw [decide_eq_true_eq] at h
    omega
  · rw [decide_eq_true_eq] at h
    omega

theorem ofInt_zero : ofInt 0 = zero false := by
  simp [ofInt, ofScientific]

theorem natAbs_sign_mul (negative : Bool) (k : ℕ) : (sign negative * (k : ℤ)).natAbs = k := by
  cases negative <;> simp [sign]

theorem ofInt_sign_mul (negative : Bool) (hk : 0 < k) :
    ofInt (sign negative * k) = ofScientific negative k 0 := by
  have hneg : decide (sign negative * (k : ℤ) < 0) = negative := by
    cases negative <;> simp [sign, hk]
  rw [ofInt, hneg, natAbs_sign_mul]

theorem ofInt_eq_finite_iff (hn : n ≠ 0) :
    ofInt n = finite negative m e hs ↔ decide (n < 0) = negative ∧ Near m e n.natAbs :=
  ofScientific_natural_eq_iff (Int.natAbs_pos.mpr hn)

/-- The integers that are read as one double have one sign and round to one magnitude. -/
theorem ofInt_eq_iff (hn : n ≠ 0) (h : ofInt n = finite negative m e hs) :
    ofInt q = ofInt n ↔ ∃ k : ℕ, q = sign negative * k ∧ Near m e k := by
  obtain ⟨-, hnear⟩ := (ofInt_eq_finite_iff hn).mp h
  have hm : 0 < m := significand_pos hs.toIsScaled (Int.natAbs_pos.mpr hn) hnear
  rw [h]
  constructor
  · intro hq
    have hq0 : q ≠ 0 := by
      rintro rfl
      rw [ofInt_zero] at hq
      obtain ⟨-, rfl, -⟩ := finite.inj hq
      exact absurd hm (lt_irrefl 0)
    obtain ⟨rfl, hqnear⟩ := (ofInt_eq_finite_iff hq0).mp hq
    exact ⟨q.natAbs, (sign_mul_natAbs q).symm, hqnear⟩
  · rintro ⟨k, rfl, hk⟩
    have hpos : 0 < k := by exact_mod_cast hk.pos hm
    rw [ofInt_sign_mul negative hpos, ofScientific_natural_eq_iff hpos]
    exact ⟨rfl, hk⟩

theorem eq_zero_of_ofInt (h : ofInt q = ofInt 0) : q = 0 := by
  by_contra hq
  have hzero : IsNormal 0 (-1074) := by decide
  have hnear : Near 0 (-1074) q.natAbs := ((ofInt_eq_finite_iff hq).mp (h.trans ofInt_zero)).2
  exact absurd (significand_pos hzero.toIsScaled (Int.natAbs_pos.mpr hq) hnear) (lt_irrefl 0)

theorem shortest_zero : Shortest 0 := by
  refine ⟨fun q hq j _ => dvd_zero _, fun q v hq _ _ => ?_⟩
  rw [eq_zero_of_ofInt hq]

theorem pow_dvd_sign_mul_iff (negative : Bool) (j k : ℕ) :
    (10 : ℤ) ^ j ∣ sign negative * k ↔ 10 ^ j ∣ k := by
  rw [dvd_sign_mul_iff]
  norm_cast

theorem abs_sign_mul_sub (negative : Bool) (x y : ℚ) :
    |sign negative * x - sign negative * y| = |x - y| := by
  rw [← mul_sub, abs_mul]
  cases negative <;> simp [sign]

theorem shortest_iff (hn : n ≠ 0) (h : ofInt n = finite negative m e hs) :
    Shortest n ↔ IsShortest m e n.natAbs := by
  obtain ⟨hneg, hnear⟩ := (ofInt_eq_finite_iff hn).mp h
  obtain ⟨a, ha⟩ : ∃ a, n.natAbs = a := ⟨_, rfl⟩
  have hna : n = sign negative * a := by rw [← hneg, ← ha, sign_mul_natAbs]
  have hcast (k : ℕ) : ((sign negative * k : ℤ) : ℚ) = sign negative * k := by push_cast; rfl
  have hvalue {v : ℚ} : (ofInt n).value? = some v ↔ sign negative * (m * 2 ^ e) = v := by
    rw [h, value?, Option.some.injEq, mul_assoc]
  rw [ha] at hnear ⊢
  -- All integers that are read alike have one sign, which is taken off or put back.
  constructor
  · intro hs
    refine ⟨hnear, fun k hk j hj => ?_, fun k hk hdvd => ?_⟩
    · have hz := hs.zeros _ ((ofInt_eq_iff hn h).mpr ⟨k, rfl, hk⟩) j
        ((pow_dvd_sign_mul_iff negative j k).mpr hj)
      rwa [hna, pow_dvd_sign_mul_iff] at hz
    · have hd := hs.nearest _ _ ((ofInt_eq_iff hn h).mpr ⟨k, rfl, hk⟩)
        (fun j hj => (pow_dvd_sign_mul_iff negative j k).mpr
          (hdvd j ((pow_dvd_sign_mul_iff negative j a).mp (hna ▸ hj))))
        (hvalue.mpr rfl)
      rwa [hna, hcast, hcast, abs_sign_mul_sub, abs_sign_mul_sub] at hd
  · intro hs
    refine ⟨fun q hq j hj => ?_, fun q v hq hdvd hv => ?_⟩
    · obtain ⟨k, rfl, hk⟩ := (ofInt_eq_iff hn h).mp hq
      rw [hna, pow_dvd_sign_mul_iff]
      exact hs.zeros k hk j ((pow_dvd_sign_mul_iff negative j k).mp hj)
    · obtain ⟨k, rfl, hk⟩ := (ofInt_eq_iff hn h).mp hq
      have hd := hs.nearest k hk fun j hj => (pow_dvd_sign_mul_iff negative j k).mp
        (hdvd j (by rw [hna]; exact (pow_dvd_sign_mul_iff negative j a).mpr hj))
      rw [← hvalue.mp hv, hna, hcast, hcast, abs_sign_mul_sub, abs_sign_mul_sub]
      exact hd

/-- Only one of the integers that are read as a finite double is the shortest. -/
theorem Shortest.unique (hsn : Shortest n) (h : ofInt n = finite negative m e hs)
    (hq : ofInt q = ofInt n) (hsq : Shortest q) : q = n := by
  rcases eq_or_ne n 0 with rfl | hn
  · exact eq_zero_of_ofInt hq
  · have hq0 : q ≠ 0 := by
      rintro rfl
      exact hn (eq_zero_of_ofInt hq.symm)
    have hq' : ofInt q = finite negative m e hs := hq.trans h
    have habs := ((shortest_iff hq0 hq').mp hsq).unique ((shortest_iff hn h).mp hsn)
    rw [← sign_mul_natAbs q, ← sign_mul_natAbs n, habs, ((ofInt_eq_finite_iff hn).mp h).1,
      ((ofInt_eq_finite_iff hq0).mp hq').1]

/-- Integers of fewer than 54 bits are the shortest of those that are read as they are. -/
theorem shortest_of_natAbs_lt (hn : n.natAbs < 2 ^ 53) : Shortest n := by
  rcases eq_or_ne n 0 with rfl | hn0
  · exact shortest_zero
  · obtain ⟨m, e, h, hnear, hof⟩ := ofScientific_natural (Int.natAbs_pos.mpr hn0)
    have he := exponent_nonpos h hnear hn
    have hfinite : ofInt n = finite (decide (n < 0)) m e ⟨h, by omega⟩ := by
      rw [ofInt, hof, ofMagnitude_of_normal]
    exact (shortest_iff hn0 hfinite).mpr (isShortest_of_lt h hnear hn)

end Reading

/-- The decimal digits of an integer, without superfluous zeros in front. Zero may have a minus. -/
inductive IsLiteral : ℤ → Text → Prop
  | plain (k : ℕ) : IsLiteral k (Text.ofNat k)
  | minus (k : ℕ) : IsLiteral (-k) (0x2D :: Text.ofNat k)

section Literal
variable {n : ℤ} {source : Text} {d : Double}

theorem IsLiteral.ofDecimal? (h : IsLiteral n source) :
    ∃ (negative : Bool) (k : ℕ), n = sign negative * k ∧
      Double.ofDecimal? source = some (ofScientific negative k 0) := by
  have hread (negative : Bool) (k : ℕ) :
      Double.ofDecimal? (signed negative (Text.ofNat k)) = some (ofScientific negative k 0) := by
    rw [ofDecimal?_eq, decimal?_ofNat, Option.map_some]
  cases h with
  | plain k => exact ⟨false, k, by simp [sign], hread false k⟩
  | minus k => exact ⟨true, k, by simp [sign], hread true k⟩

theorem denotes_zero (negative : Bool) : Denotes (zero negative).toText 0 := by
  have hzero : (zero negative).toText = signed false (Text.ofNat 0) := by
    rw [zero, toText, if_pos rfl]
    rfl
  rw [hzero]
  exact ⟨_, decimal?_ofNat false 0, by simp [Decimal.value]⟩

theorem IsLiteral.read (h : IsLiteral n source) (hd : Double.ofDecimal? source = some d)
    (hw : d.isWhole = true) :
    (n = 0 ∧ ∃ negative, d = zero negative) ∨
      (n ≠ 0 ∧ ofInt n = d ∧ ∃ negative m e hs, d = finite negative m e hs) := by
  obtain ⟨negative, k, rfl, hread⟩ := h.ofDecimal?
  obtain rfl := Option.some.inj (hread.symm.trans hd)
  rcases Nat.eq_zero_or_pos k with rfl | hk
  · exact Or.inl ⟨by simp, negative, by rw [ofScientific, if_pos (Or.inl rfl)]⟩
  · have hne : sign negative * (k : ℤ) ≠ 0 := by
      rw [← Int.natAbs_pos, natAbs_sign_mul]
      exact hk
    refine Or.inr ⟨hne, ofInt_sign_mul negative hk, ?_⟩
    generalize ofScientific negative k 0 = r at hw
    cases r with
    | finite negative m e hs => exact ⟨negative, m, e, hs, rfl⟩
    | infinite => exact Bool.noConfusion hw
    | nan => exact Bool.noConfusion hw

/-- An integer that is read is printed as the shortest of those that are read as the same double. -/
theorem IsLiteral.exists_shortest (h : IsLiteral n source)
    (hd : Double.ofDecimal? source = some d) (hw : d.isWhole = true) :
    ∃ p : ℤ, Denotes d.toText p ∧ ofInt p = ofInt n ∧ Shortest p := by
  rcases h.read hd hw with ⟨rfl, negative, rfl⟩ | ⟨hn, hread, negative, m, e, hs, rfl⟩
  · exact ⟨0, by simpa using denotes_zero negative, rfl, shortest_zero⟩
  · obtain ⟨-, hnear⟩ := (ofInt_eq_finite_iff hn).mp hread
    have hpos := Int.natAbs_pos.mpr hn
    have hm : 0 < m := significand_pos hs.toIsScaled hpos hnear
    obtain ⟨c, k, hck, hshort⟩ :=
      isShortest_shortest hs.toIsScaled hs.exponent_le hpos hnear
    have hc : 0 < c * 10 ^ k := by exact_mod_cast hshort.near.pos hm
    have hp : ofInt (sign negative * (c * 10 ^ k : ℕ)) = finite negative m e hs := by
      rw [ofInt_sign_mul negative hc, ofScientific_natural_eq_iff hc]
      exact ⟨rfl, hshort.near⟩
    refine ⟨sign negative * (c * 10 ^ k : ℕ), ?_, hp.trans hread.symm, ?_⟩
    · have ht := denotes_toText negative hm.ne' hs
      rw [hck] at ht
      simpa [mul_assoc] using ht
    · have hp0 : sign negative * ((c * 10 ^ k : ℕ) : ℤ) ≠ 0 := by
        rw [← Int.natAbs_pos, natAbs_sign_mul]
        exact hc
      rwa [shortest_iff hp0 hp, natAbs_sign_mul]

/-- An integer that is read is printed unchanged if and only if it is the shortest. -/
theorem IsLiteral.denotes_iff (h : IsLiteral n source) (hd : Double.ofDecimal? source = some d)
    (hw : d.isWhole = true) : Denotes d.toText n ↔ Shortest n := by
  obtain ⟨p, hp, hpn, hshort⟩ := h.exists_shortest hd hw
  constructor
  · intro hn
    have heq : p = n := by exact_mod_cast hp.unique hn
    exact heq ▸ hshort
  · intro hn
    have heq : p = n := by
      rcases h.read hd hw with ⟨rfl, -⟩ | ⟨-, hread, negative, m, e, hs, rfl⟩
      · exact eq_zero_of_ofInt hpn
      · exact hn.unique hread hpn hshort
    exact heq ▸ hp

end Literal

end ZoneKeeper.Double
