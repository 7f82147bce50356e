import Mathlib
import ZoneKeeper.Double

namespace ZoneKeeper.Double

theorem isScaled_iff {m : ℕ} {e : ℤ} :
    IsScaled m e ↔ m < 2 ^ 53 ∧ -1074 ≤ e ∧ (2 ^ 52 ≤ m ∨ e = -1074) :=
  ⟨fun h => ⟨h.lt, h.le_exponent, h.full⟩, fun h => ⟨h.1, h.2.1, h.2.2⟩⟩

theorem ofMagnitude_of_normal {m : ℕ} {e : ℤ} (h : IsNormal m e) (negative : Bool) :
    ofMagnitude negative m e = finite negative m e h := dif_pos h

theorem ofMagnitude_of_lt {e : ℤ} (he : 971 < e) (negative : Bool) (m : ℕ) :
    ofMagnitude negative m e = infinite negative :=
  dif_neg fun h => absurd h.exponent_le (not_le.mpr he)

/-- The lower end of the numbers that round to a double, in quarters of its last place. Below a
power of two doubles lie twice as dense. -/
def lowQuarters (m : ℕ) (e : ℤ) : ℕ := if m = 2 ^ 52 ∧ -1074 < e then 4 * m - 1 else 4 * m - 2

/-- The numbers that round to a double, in quarters of its last place. -/
def quarters (m : ℕ) (e : ℤ) : Set ℚ :=
  if m % 2 = 0 then Set.Icc (lowQuarters m e) (4 * m + 2)
  else Set.Ioo (lowQuarters m e) (4 * m + 2)

/-- The number is rounded to the double with this significand and exponent. -/
def Near (m : ℕ) (e : ℤ) (x : ℚ) : Prop := x / 2 ^ (e - 2) ∈ quarters m e

theorem pow_toNat_div {b : ℚ} (hb : b ≠ 0) (e : ℤ) : b ^ e.toNat / b ^ (-e).toNat = b ^ e := by
  rw [← zpow_natCast, ← zpow_natCast, ← zpow_sub₀ hb, Int.toNat_sub_toNat_neg]

section Quarters
variable {m m' : ℕ} {e e' : ℤ} {x y z : ℚ}

theorem quarters_subset : quarters m e ⊆ Set.Icc (lowQuarters m e : ℚ) (4 * m + 2) := by
  unfold quarters
  split_ifs
  · exact subset_rfl
  · exact Set.Ioo_subset_Icc_self

/-- An odd significand gives its ends to the neighbours. -/
theorem lt_of_mem_quarters (hodd : m % 2 = 1) (h : y ∈ quarters m e) :
    lowQuarters m e < y ∧ y < 4 * m + 2 := by
  rwa [quarters, if_neg (by omega)] at h

theorem ordConnected_quarters (m : ℕ) (e : ℤ) : (quarters m e).OrdConnected := by
  unfold quarters
  split_ifs
  · exact Set.ordConnected_Icc
  · exact Set.ordConnected_Ioo

theorem lowQuarters_le (m : ℕ) (e : ℤ) : 4 * m ≤ lowQuarters m e + 2 := by
  unfold lowQuarters
  split_ifs <;> omega

theorem two_pow_54_le_lowQuarters (hm : 2 ^ 52 ≤ m) (he : -1074 < e) :
    2 ^ 54 ≤ lowQuarters m e + 1 := by
  unfold lowQuarters
  split_ifs <;> omega

theorem Near.between (hx : Near m e x) (hz : Near m e z) (hxy : x ≤ y) (hyz : y ≤ z) :
    Near m e y := by
  have hpos : (0 : ℚ) < 2 ^ (e - 2) := by positivity
  apply (ordConnected_quarters m e).out hx hz
  exact ⟨by gcongr, by gcongr⟩

theorem mul_zpow_div_quarter (y : ℚ) (e : ℤ) : y * 2 ^ e / 2 ^ (e - 2) = 4 * y := by
  rw [zpow_sub₀ (by norm_num)]
  field_simp
  norm_num

theorem near_value (m : ℕ) (e : ℤ) : Near m e (m * 2 ^ e) := by
  rw [Near, mul_zpow_div_quarter, quarters]
  have hlow : lowQuarters m e ≤ 4 * m := by
    unfold lowQuarters
    split_ifs <;> omega
  split_ifs with heven
  · exact ⟨by exact_mod_cast hlow, by linarith⟩
  · have hlt : lowQuarters m e < 4 * m := by
      unfold lowQuarters
      split_ifs <;> omega
    exact ⟨by exact_mod_cast hlt, by linarith⟩

/-- Doubles with one exponent meet at no number: of two neighbours one is odd. -/
theorem significand_unique (hy : y ∈ quarters m e) (hy' : y ∈ quarters m' e) (hle : m ≤ m') :
    m = m' := by
  by_contra hne
  have hlow := (quarters_subset hy').1
  have hhigh := (quarters_subset hy).2
  have hgap : 4 * m' ≤ 4 * m + 4 := by
    have hq : (4 * m' : ℚ) ≤ 4 * m + 4 := by
      have := lowQuarters_le m' e
      have : (4 * m' : ℚ) ≤ lowQuarters m' e + 2 := by exact_mod_cast this
      linarith
    exact_mod_cast hq
  obtain rfl : m' = m + 1 := by omega
  have hmiddle : (4 * m + 2 : ℚ) ≤ lowQuarters (m + 1) e := by
    have := lowQuarters_le (m + 1) e
    exact_mod_cast (by omega : 4 * m + 2 ≤ lowQuarters (m + 1) e)
  rcases Nat.mod_two_eq_zero_or_one m with heven | hodd
  · have := (lt_of_mem_quarters (by omega) hy').1
    linarith
  · have := (lt_of_mem_quarters hodd hy).2
    linarith

/-- A double with a greater exponent lies above all those with a smaller one. -/
theorem not_near_of_lt (h : IsScaled m e) (h' : IsScaled m' e') (hlt : e < e')
    (hx : Near m e x) : ¬ Near m' e' x := by
  intro hx'
  have hlow : (2 ^ 54 : ℚ) ≤ lowQuarters m' e' + 1 := by
    have hfull := h'.full.resolve_right (by have := h.le_exponent; omega)
    exact_mod_cast two_pow_54_le_lowQuarters hfull (by have := h.le_exponent; omega)
  have htwo : (2 : ℚ) ≤ 2 ^ (e' - e) := by
    calc (2 : ℚ) = 2 ^ (1 : ℤ) := by norm_num
      _ ≤ 2 ^ (e' - e) := zpow_le_zpow_right₀ (by norm_num) (by omega)
  have hscale : x / 2 ^ (e - 2) = x / 2 ^ (e' - 2) * 2 ^ (e' - e) := by
    rw [show e' - 2 = (e - 2) + (e' - e) by ring, zpow_add₀ (by norm_num)]
    field_simp
  have hlow' := (quarters_subset hx').1
  have hhigh := (quarters_subset hx).2
  -- The two intervals touch at most at the end of one whose significand is odd.
  have htouch : (2 ^ 55 - 2 : ℚ) ≤ x / 2 ^ (e - 2) := by
    rw [hscale]
    nlinarith
  have hm : m = 2 ^ 53 - 1 := by
    have hq : (2 ^ 55 - 2 : ℚ) ≤ 4 * m + 2 := htouch.trans hhigh
    have hn : 2 ^ 55 ≤ 4 * m + 4 := by
      have : (2 ^ 55 : ℚ) ≤ 4 * m + 4 := by linarith
      exact_mod_cast this
    have := (isScaled_iff.mp h).1
    omega
  have hend := (lt_of_mem_quarters (by rw [hm]; norm_num) hx).2
  rw [hm] at hend
  norm_num at hend htouch
  linarith

/-- The intervals of two doubles do not meet. -/
theorem Near.unique (h : IsScaled m e) (h' : IsScaled m' e') (hx : Near m e x)
    (hx' : Near m' e' x) : m = m' ∧ e = e' := by
  rcases lt_trichotomy e e' with hlt | rfl | hgt
  · exact absurd hx' (not_near_of_lt h h' hlt hx)
  · rcases le_total m m' with hle | hle
    · exact ⟨significand_unique hx hx' hle, rfl⟩
    · exact ⟨(significand_unique hx' hx hle).symm, rfl⟩
  · exact absurd hx (not_near_of_lt h' h hgt hx')

end Quarters

section Round
variable {num den : ℕ}

theorem roundQuotient_eq_or (num den : ℕ) :
    roundQuotient num den = num / den ∨ roundQuotient num den = num / den + 1 := by
  simp only [roundQuotient]
  split_ifs <;> omega

/-- The nearest whole number is half a unit away at most, and less if it is odd. -/
theorem roundQuotient_spec (num : ℕ) (hd : 0 < den) :
    let r := roundQuotient num den
    2 * (den * r) ≤ 2 * num + den ∧ 2 * num ≤ 2 * (den * r) + den ∧
      (r % 2 = 1 → 2 * (den * r) < 2 * num + den ∧ 2 * num < 2 * (den * r) + den) := by
  have hdiv := Nat.div_add_mod num den
  have hmod := Nat.mod_lt num hd
  have hsucc : den * (num / den + 1) = den * (num / den) + den := by ring
  simp only [roundQuotient]
  split_ifs with hbelow habove
  · omega
  · rw [hsucc]
    omega
  · rcases Nat.mod_two_eq_zero_or_one (num / den) with heven | hodd
    · rw [heven, add_zero]
      omega
    · rw [hodd, hsucc]
      omega

theorem roundQuotient_quarters (hd : 0 < den) {y : ℚ} (hy : den * y = 4 * num) :
    let r := roundQuotient num den
    4 * (r : ℚ) ≤ y + 2 ∧ y ≤ 4 * r + 2 ∧ (r % 2 = 1 → 4 * (r : ℚ) < y + 2 ∧ y < 4 * r + 2) := by
  intro r
  have hpos : (0 : ℚ) < den := by exact_mod_cast hd
  obtain ⟨hlow, hhigh, hodd⟩ := roundQuotient_spec num hd
  have hlow' : (2 * (den * r) : ℚ) ≤ 2 * num + den := by exact_mod_cast hlow
  have hhigh' : (2 * num : ℚ) ≤ 2 * (den * r) + den := by exact_mod_cast hhigh
  refine ⟨le_of_mul_le_mul_left ?_ hpos, le_of_mul_le_mul_left ?_ hpos, ?_⟩
  · linarith
  · linarith
  · intro h
    have hlt : (2 * (den * r) : ℚ) < 2 * num + den := by exact_mod_cast (hodd h).1
    have hgt : (2 * num : ℚ) < 2 * (den * r) + den := by exact_mod_cast (hodd h).2
    refine ⟨lt_of_mul_lt_mul_left ?_ hpos.le, lt_of_mul_lt_mul_left ?_ hpos.le⟩
    · linarith
    · linarith

theorem roundQuotient_nearest (hd : 0 < den) (x : ℕ) :
    |(roundQuotient num den : ℚ) - num / den| ≤ |(x : ℚ) - num / den| := by
  have hpos : (0 : ℚ) < den := by exact_mod_cast hd
  have hquarters : (den : ℚ) * (4 * (num / den)) = 4 * num := by field_simp
  obtain ⟨hlow, hhigh, -⟩ := roundQuotient_quarters hd hquarters
  have hhalf : |(roundQuotient num den : ℚ) - num / den| ≤ 1 / 2 := by
    rw [abs_le]
    constructor <;> linarith
  by_cases hx : x = roundQuotient num den
  · rw [hx]
  · have hone : (1 : ℚ) ≤ |(x : ℚ) - roundQuotient num den| := by
      have hint : (1 : ℤ) ≤ |(x : ℤ) - roundQuotient num den| :=
        Int.one_le_abs (by omega)
      exact_mod_cast hint
    have htri := abs_sub_le (x : ℚ) (num / den) (roundQuotient num den)
    rw [abs_sub_comm (num / den : ℚ)] at htri
    linarith

theorem log2_bounds {n : ℕ} (hn : 0 < n) :
    (2 : ℚ) ^ (n.log2 : ℤ) ≤ n ∧ (n : ℚ) < 2 ^ (n.log2 + 1 : ℤ) := by
  constructor
  · exact_mod_cast Nat.log2_self_le hn.ne'
  · exact_mod_cast Nat.lt_log2_self

/-- A power of two is compared with a quotient without division. -/
theorem pow_toNat_le_iff (hd : 0 < den) (e : ℤ) :
    den * Nat.pow 2 e.toNat ≤ num * Nat.pow 2 (-e).toNat ↔ (2 : ℚ) ^ e ≤ num / den := by
  have hpos : (0 : ℚ) < den := by exact_mod_cast hd
  rw [← pow_toNat_div (by norm_num) e, div_le_div_iff₀ (by positivity) hpos, mul_comm,
    Nat.pow_eq, Nat.pow_eq, ← Nat.cast_le (α := ℚ)]
  push_cast
  rfl

theorem quotientLog_spec (hn : 0 < num) (hd : 0 < den) :
    (2 : ℚ) ^ quotientLog num den ≤ num / den ∧
      (num / den : ℚ) < 2 ^ (quotientLog num den + 1) := by
  have hpos : (0 : ℚ) < den := by exact_mod_cast hd
  obtain ⟨hnum, hnum'⟩ := log2_bounds hn
  obtain ⟨hden, hden'⟩ := log2_bounds hd
  unfold quotientLog
  extract_lets guess
  -- The guess is at most one too large, and the comparison tells whether it is.
  have hupper : (num / den : ℚ) < 2 ^ (guess + 1) := by
    rw [div_lt_iff₀ hpos]
    calc (num : ℚ) < 2 ^ (num.log2 + 1 : ℤ) := hnum'
      _ = 2 ^ (guess + 1) * 2 ^ (den.log2 : ℤ) := by
        rw [← zpow_add₀ (by norm_num)]
        congr 1
        omega
      _ ≤ 2 ^ (guess + 1) * den := by gcongr
  have hlower : (2 : ℚ) ^ (guess - 1) ≤ num / den := by
    rw [le_div_iff₀ hpos]
    calc (2 : ℚ) ^ (guess - 1) * den ≤ 2 ^ (guess - 1) * 2 ^ (den.log2 + 1 : ℤ) := by gcongr
      _ = 2 ^ (num.log2 : ℤ) := by
        rw [← zpow_add₀ (by norm_num)]
        congr 1
        omega
      _ ≤ num := hnum
  split_ifs with hguess
  · exact ⟨(pow_toNat_le_iff hd guess).mp hguess, hupper⟩
  · rw [pow_toNat_le_iff hd, not_le] at hguess
    exact ⟨hlower, by rwa [sub_add_cancel]⟩

/-- The nearest whole significand is that of the interval. -/
theorem mem_quarters_of_nearest {r : ℕ} {e : ℤ} {y : ℚ} (h0 : 0 ≤ y) (hlow : 4 * (r : ℚ) ≤ y + 2)
    (hhigh : y ≤ 4 * r + 2) (hodd : r % 2 = 1 → 4 * (r : ℚ) < y + 2 ∧ y < 4 * r + 2)
    (hfull : -1074 < e → 2 ^ 54 ≤ y) : y ∈ quarters r e := by
  have hcast : ((4 * r - 2 : ℕ) : ℚ) ≤ max (0 : ℚ) (4 * r - 2) := by
    rcases Nat.eq_zero_or_pos r with rfl | hr
    · simp
    · rw [Nat.cast_sub (by omega)]
      simp
  unfold quarters lowQuarters
  split_ifs with heven htop htop
  · refine ⟨?_, hhigh⟩
    rw [htop.1]
    have := hfull htop.2
    norm_num at this ⊢
    linarith
  · exact ⟨hcast.trans (max_le h0 (by linarith)), hhigh⟩
  · rw [htop.1] at heven
    exact absurd (by norm_num) heven
  · obtain ⟨hlt, hgt⟩ := hodd (by omega)
    refine ⟨?_, hgt⟩
    rw [Nat.cast_sub (by omega)]
    push_cast
    linarith

theorem isScaled_of_nearest {r : ℕ} {e : ℤ} {y : ℚ} (he : -1074 ≤ e) (hcarry : r ≠ 2 ^ 53)
    (hlow : 4 * (r : ℚ) ≤ y + 2) (hhigh : y ≤ 4 * r + 2) (hlt : y < 2 ^ 55)
    (hfull : -1074 < e → 2 ^ 54 ≤ y) : IsScaled r e := by
  refine isScaled_iff.mpr ⟨?_, he, ?_⟩
  · have hr : 4 * r < 2 ^ 55 + 2 := by
      have : (4 * r : ℚ) < 2 ^ 55 + 2 := by linarith
      exact_mod_cast this
    omega
  · by_contra! hsmall
    have hr : 2 ^ 54 ≤ 4 * r + 2 := by
      have : (2 ^ 54 : ℚ) ≤ 4 * r + 2 := by linarith [hfull (by omega)]
      exact_mod_cast this
    omega

/-- A significand that is rounded up to a power of two gives way to half of it. -/
theorem mem_quarters_of_carry {e : ℤ} {y : ℚ} (he : -1074 ≤ e) (hlow : 2 ^ 55 - 2 ≤ y)
    (hhigh : y < 2 ^ 55) : y / 2 ∈ quarters (2 ^ 52) (e + 1) := by
  have htop : lowQuarters (2 ^ 52) (e + 1) = 2 ^ 54 - 1 := by
    rw [lowQuarters, if_pos ⟨rfl, by omega⟩]
    norm_num
  rw [quarters, if_pos (by norm_num), htop]
  constructor
  · norm_num at hlow ⊢
    linarith
  · norm_num at hhigh ⊢
    linarith

theorem scaled_mul_quarter (num : ℕ) (hd : 0 < den) (e : ℤ) :
    ((den * 2 ^ e.toNat : ℕ) : ℚ) * (num / den / 2 ^ (e - 2)) =
      4 * ((num * 2 ^ (-e).toNat : ℕ) : ℚ) := by
  have hpos : (0 : ℚ) < den := by exact_mod_cast hd
  rw [zpow_sub₀ (by norm_num), ← pow_toNat_div (by norm_num) e]
  push_cast
  field_simp

/-- The exponent that is taken for a quotient leaves a significand of 53 bits, or of fewer with the
least exponent. -/
theorem quarter_bounds (hn : 0 < num) (hd : 0 < den) {e : ℤ}
    (he : max (quotientLog num den - 52) (-1074) = e) :
    (num / den / 2 ^ (e - 2) : ℚ) < 2 ^ 55 ∧
      (-1074 < e → (2 : ℚ) ^ 54 ≤ num / den / 2 ^ (e - 2)) := by
  obtain ⟨hlog, hlog'⟩ := quotientLog_spec hn hd
  constructor
  · rw [div_lt_iff₀ (by positivity)]
    calc (num / den : ℚ) < 2 ^ (quotientLog num den + 1) := hlog'
      _ ≤ 2 ^ (55 + (e - 2)) := zpow_le_zpow_right₀ (by norm_num) (by omega)
      _ = 2 ^ 55 * 2 ^ (e - 2) := zpow_add₀ (by norm_num) 55 (e - 2)
  · intro hleast
    rw [le_div_iff₀ (by positivity)]
    calc (2 : ℚ) ^ 54 * 2 ^ (e - 2) = 2 ^ (54 + (e - 2)) :=
          (zpow_add₀ (by norm_num) 54 (e - 2)).symm
      _ = 2 ^ quotientLog num den := by
        congr 1
        omega
      _ ≤ num / den := hlog

/-- A quotient is rounded to the magnitude whose interval it lies in. -/
theorem ofQuotient_eq (hn : 0 < num) (hd : 0 < den) :
    ∃ m e, IsScaled m e ∧ Near m e (num / den) ∧
      ∀ negative, ofQuotient negative num den = ofMagnitude negative m e := by
  have hnpos : (0 : ℚ) < num := by exact_mod_cast hn
  have hdpos : (0 : ℚ) < den := by exact_mod_cast hd
  obtain ⟨e, he⟩ : ∃ e, max (quotientLog num den - 52) (-1074) = e := ⟨_, rfl⟩
  obtain ⟨r, hr⟩ : ∃ r, roundQuotient (num * 2 ^ (-e).toNat) (den * 2 ^ e.toNat) = r := ⟨_, rfl⟩
  obtain ⟨hlt, hfull⟩ := quarter_bounds hn hd he
  obtain ⟨hlow, hhigh, hodd⟩ :=
    roundQuotient_quarters (by positivity) (scaled_mul_quarter num hd e)
  rw [hr] at hlow hhigh hodd
  have hof (negative : Bool) : ofQuotient negative num den =
      if r = 2 ^ 53 then ofMagnitude negative (2 ^ 52) (e + 1)
      else ofMagnitude negative r e := by
    unfold ofQuotient
    rw [if_neg hn.ne']
    simp only [Nat.pow_eq, he, hr]
    by_cases hcarry : r = 2 ^ 53
    · simp only [if_pos hcarry]
    · simp only [if_neg hcarry]
  -- Rounded up to `2 ^ 53`, the significand is the least one of the next exponent.
  by_cases hcarry : r = 2 ^ 53
  · refine ⟨2 ^ 52, e + 1, ⟨by norm_num, by omega, Or.inl le_rfl⟩, ?_, fun negative => ?_⟩
    · have hhalf : (num / den : ℚ) / 2 ^ (e + 1 - 2) = num / den / 2 ^ (e - 2) / 2 := by
        rw [show e + 1 - 2 = (e - 2) + 1 by ring, zpow_add₀ (by norm_num)]
        field_simp
      rw [hcarry] at hlow
      rw [Near, hhalf]
      exact mem_quarters_of_carry (by omega) (by push_cast at hlow; linarith) hlt
    · rw [hof, if_pos hcarry]
  · have hscaled : IsScaled r e := isScaled_of_nearest (by omega) hcarry hlow hhigh hlt hfull
    refine ⟨r, e, hscaled, ?_, fun negative => ?_⟩
    · exact mem_quarters_of_nearest (by positivity) hlow hhigh hodd hfull
    · rw [hof, if_neg hcarry]

end Round

end ZoneKeeper.Double
