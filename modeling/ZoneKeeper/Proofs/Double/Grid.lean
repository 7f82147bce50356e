import Mathlib
import ZoneKeeper.Double.Shortest
import ZoneKeeper.Proofs.Double.Rounding

namespace ZoneKeeper.Double

/-- The step of a grid and a quarter of the last place of a double are to each other as these two
whole numbers. -/
def gridStep (e j : ℤ) : ℕ := 2 ^ (2 - e).toNat * 10 ^ j.toNat

def gridScale (e j : ℤ) : ℕ := 2 ^ (e - 2).toNat * 10 ^ (-j).toNat

section Point
variable {m : ℕ} {e j : ℤ}

theorem gridStep_pos (e j : ℤ) : 0 < gridStep e j := by
  unfold gridStep
  positivity

theorem gridScale_pos (e j : ℤ) : 0 < gridScale e j := by
  unfold gridScale
  positivity

theorem gridStep_div_gridScale (e j : ℤ) :
    (gridStep e j : ℚ) / gridScale e j = 10 ^ j / 2 ^ (e - 2) := by
  have h2 := pow_toNat_div (b := 2) (by norm_num) (e - 2)
  have h10 := pow_toNat_div (b := 10) (by norm_num) j
  rw [← h2, ← h10, show -(e - 2) = 2 - e by ring, gridStep, gridScale]
  push_cast
  field_simp

/-- Whether a quotient rounds to a double is told without division. -/
theorem div_mem_quarters_iff {scale : ℕ} (hs : 0 < scale) (a : ℕ) :
    (a / scale : ℚ) ∈ quarters m e ↔
      if m % 2 = 0 then lowQuarters m e * scale ≤ a ∧ a ≤ (4 * m + 2) * scale
      else lowQuarters m e * scale < a ∧ a < (4 * m + 2) * scale := by
  have hpos : (0 : ℚ) < scale := by exact_mod_cast hs
  unfold quarters
  split_ifs
  · rw [Set.mem_Icc, le_div_iff₀ hpos, div_le_iff₀ hpos]
    norm_cast
  · rw [Set.mem_Ioo, lt_div_iff₀ hpos, div_lt_iff₀ hpos]
    norm_cast

theorem near_grid_iff (x : ℕ) :
    Near m e (x * 10 ^ j) ↔
      if m % 2 = 0 then
        lowQuarters m e * gridScale e j ≤ x * gridStep e j ∧
          x * gridStep e j ≤ (4 * m + 2) * gridScale e j
      else
        lowQuarters m e * gridScale e j < x * gridStep e j ∧
          x * gridStep e j < (4 * m + 2) * gridScale e j := by
  rw [Near, mul_div_assoc, ← gridStep_div_gridScale, ← mul_div_assoc, ← Nat.cast_mul,
    div_mem_quarters_iff (gridScale_pos e j)]

theorem value_eq_steps (m : ℕ) (e j : ℤ) :
    (m * 2 ^ e : ℚ) = ((4 * m * gridScale e j : ℕ) : ℚ) / gridStep e j * 10 ^ j := by
  have hscale : (gridScale e j : ℚ) ≠ 0 := by exact_mod_cast (gridScale_pos e j).ne'
  have hstep : (gridStep e j : ℚ) ≠ 0 := by exact_mod_cast (gridStep_pos e j).ne'
  have hsteps : ((4 * m * gridScale e j : ℕ) : ℚ) / gridStep e j =
      4 * m / (gridStep e j / gridScale e j) := by
    push_cast
    field_simp
  rw [hsteps, gridStep_div_gridScale, zpow_sub₀ (by norm_num)]
  field_simp
  norm_num

/-- Of the numbers with a property that holds between any of them and `t`, one of the neighbours of
`t` is the nearest. -/
theorem nearest_neighbour {P : ℕ → Prop} {t : ℚ} {b : ℕ} (hb : b ≤ t) (hb' : t < b + 1)
    (hdown : ∀ x ≤ b, P x → P b) (hup : ∀ x, b + 1 ≤ x → P x → P (b + 1)) :
    (¬ P b → ∀ x, P x → P (b + 1) ∧ |(b + 1 : ℕ) - t| ≤ |x - t|) ∧
      (¬ P (b + 1) → ∀ x, P x → P b ∧ |b - t| ≤ |x - t|) := by
  constructor
  · intro hnb x hx
    have hlt : b + 1 ≤ x := by
      by_contra! hle
      exact hnb (hdown x (by omega) hx)
    have hcast : ((b + 1 : ℕ) : ℚ) ≤ x := by exact_mod_cast hlt
    refine ⟨hup x hlt hx, ?_⟩
    push_cast at hcast ⊢
    rw [abs_of_nonneg (by linarith), abs_of_nonneg (by linarith)]
    linarith
  · intro hnb x hx
    have hle : x ≤ b := by
      by_contra! hlt
      exact hnb (hup x (by omega) hx)
    have hcast : (x : ℚ) ≤ b := by exact_mod_cast hle
    refine ⟨hdown x hle hx, ?_⟩
    rw [abs_of_nonpos (by linarith), abs_of_nonpos (by linarith)]
    linarith

/-- Where one neighbour of a double on a grid does not round to it, the other one is the nearest of
those that do. -/
theorem nearest_on_grid (m : ℕ) (e j : ℤ) :
    let value := 4 * m * gridScale e j
    let t : ℚ := value / gridStep e j
    let b := value / gridStep e j
    let P (x : ℕ) := Near m e (x * 10 ^ j)
    (¬ P b → ∀ x, P x → P (b + 1) ∧ |(b + 1 : ℕ) - t| ≤ |x - t|) ∧
      (¬ P (b + 1) → ∀ x, P x → P b ∧ |b - t| ≤ |x - t|) := by
  intro value t b P
  have hvalue : (m * 2 ^ e : ℚ) = t * 10 ^ j := value_eq_steps m e j
  have hbelow : (b : ℚ) ≤ t := Nat.cast_div_le
  have habove : t < b + 1 := by
    rw [div_lt_iff₀ (by exact_mod_cast gridStep_pos e j)]
    exact_mod_cast (Nat.div_lt_iff_lt_mul (gridStep_pos e j)).mp (Nat.lt_succ_self b)
  -- What lies between a number that rounds to the double and the double rounds to it, too.
  apply nearest_neighbour hbelow habove
  · intro x hx hnear
    apply hnear.between (near_value m e)
    · gcongr
    · rw [hvalue]
      gcongr
  · intro x hx hnear
    apply (near_value m e).between hnear
    · rw [hvalue]
      push_cast
      gcongr
    · gcongr

/-- What is found on a grid is the point nearest to the double among those that round to it, and
nothing is found only where there is none. -/
theorem gridPoint?_spec (m : ℕ) (e j : ℤ) :
    match gridPoint? m e j with
    | none => ∀ x : ℕ, ¬ Near m e (x * 10 ^ j)
    | some c => Near m e (c * 10 ^ j) ∧ ∀ x : ℕ, Near m e (x * 10 ^ j) →
        |(c : ℚ) * 10 ^ j - m * 2 ^ e| ≤ |(x : ℚ) * 10 ^ j - m * 2 ^ e| := by
  obtain ⟨hnob, hnoa⟩ := nearest_on_grid m e j
  have hvalue := value_eq_steps m e j
  unfold gridPoint?
  extract_lets scale step value low high inside below
  have hinside (x : ℕ) : inside x = true ↔ Near m e (x * 10 ^ j) := by
    have hlow : low = lowQuarters m e * scale := rfl
    have hscale : gridScale e j = scale := rfl
    have hstep : gridStep e j = step := rfl
    rw [near_grid_iff, hscale, hstep]
    simp only [inside, hlow]
    split_ifs <;> simp [high]
  have hdist (x : ℕ) : |(x : ℚ) * 10 ^ j - m * 2 ^ e| = |(x : ℚ) - value / step| * 10 ^ j := by
    have hsteps : (m * 2 ^ e : ℚ) = value / step * 10 ^ j := hvalue
    rw [hsteps, ← sub_mul, abs_mul, abs_of_pos (by positivity : (0 : ℚ) < 10 ^ j)]
  have hmono {a b : ℚ} (h : a ≤ b) : a * 10 ^ j ≤ b * 10 ^ j := by gcongr
  simp only [hdist]
  -- Only the two neighbours of the double are looked at; the cases are which of them round to it.
  split_ifs with hboth hb ha
  · rw [Bool.and_eq_true, hinside, hinside] at hboth
    refine ⟨?_, fun x _ => hmono (roundQuotient_nearest (gridStep_pos e j) x)⟩
    rcases roundQuotient_eq_or value step with hr | hr
    · rw [hr]
      exact hboth.1
    · rw [hr]
      exact hboth.2
  · have ha : ¬ Near m e ((below + 1 : ℕ) * 10 ^ j) := by
      rw [← hinside]
      simpa [hb] using hboth
    rw [hinside] at hb
    exact ⟨hb, fun x hx => hmono (hnoa ha x hx).2⟩
  · rw [hinside] at hb ha
    exact ⟨ha, fun x hx => hmono (hnob hb x hx).2⟩
  · rw [hinside] at hb ha
    exact fun x hx => ha (hnob hb x hx).1

end Point

section Search
variable {m : ℕ} {e j : ℤ}

theorem mem_grids_iff : j ∈ grids ↔ -324 ≤ j ∧ j ≤ 309 := by
  simp only [grids, List.mem_map, List.mem_range]
  constructor
  · rintro ⟨i, hi, rfl⟩
    omega
  · intro h
    exact ⟨(309 - j).toNat, by omega, by omega⟩

theorem pairwise_grids : grids.Pairwise (· > ·) := by
  rw [grids, List.pairwise_map]
  apply List.pairwise_lt_range.imp
  intro a b hab
  show (309 : ℤ) - b < 309 - a
  omega

theorem exists_greatest {β : Type} {l : List ℤ} (hl : l.Pairwise (· > ·)) {f : ℤ → Option β} {b : β}
    (h : l.findSome? f = some b) : ∃ k ∈ l, f k = some b ∧ ∀ i ∈ l, k < i → f i = none := by
  obtain ⟨l₁, k, l₂, rfl, hk, hnone⟩ := List.findSome?_eq_some_iff.mp h
  refine ⟨k, by simp, hk, fun i hi hlt => ?_⟩
  rcases List.mem_append.mp hi with hi | hi
  · exact hnone i hi
  · have hle : i ≤ k := by
      rcases List.mem_cons.mp hi with rfl | hi
      · exact le_rfl
      · exact (List.rel_of_pairwise_cons (List.pairwise_append.mp hl).2.1 hi).le
    omega

theorem Near.lt (h : IsScaled m e) (he : e ≤ 971) {x : ℚ} (hx : Near m e x) : x < 2 ^ 1024 := by
  have hhigh := (quarters_subset hx).2
  have hm : (m : ℚ) ≤ 2 ^ 53 - 1 := by
    have hle : m ≤ 2 ^ 53 - 1 := by
      have := (isScaled_iff.mp h).1
      omega
    calc (m : ℚ) ≤ ((2 ^ 53 - 1 : ℕ) : ℚ) := by exact_mod_cast hle
      _ = 2 ^ 53 - 1 := by norm_num
  rw [div_le_iff₀ (by positivity)] at hhigh
  calc x ≤ (4 * m + 2) * 2 ^ (e - 2) := hhigh
    _ < 2 ^ 55 * 2 ^ (e - 2) := by
      gcongr
      linarith
    _ ≤ 2 ^ 55 * 2 ^ (969 : ℤ) := by
      gcongr
      · norm_num
      · omega
    _ = 2 ^ 1024 := by
      rw [← zpow_natCast, ← zpow_natCast, ← zpow_add₀ (by norm_num)]
      rfl

theorem Near.pos (hm : 0 < m) {x : ℚ} (hx : Near m e x) : 0 < x := by
  have hlow := (quarters_subset hx).1
  have hpos : (0 : ℚ) < lowQuarters m e := by
    have := lowQuarters_le m e
    exact_mod_cast (by omega : 0 < lowQuarters m e)
  rw [le_div_iff₀ (by positivity)] at hlow
  exact lt_of_lt_of_le (by positivity) hlow

theorem two_pow_1024_le : (2 : ℚ) ^ 1024 ≤ 10 ^ 310 := by
  have hpow : 2 ^ 1024 ≤ 10 ^ 310 := by decide +kernel
  exact_mod_cast hpow

/-- No point of a grid this coarse rounds to a double but zero. -/
theorem not_near_of_coarse (h : IsScaled m e) (hm : 0 < m) (he : e ≤ 971) (hj : 309 < j) (x : ℕ) :
    ¬ Near m e (x * 10 ^ j) := by
  intro hx
  have hone : (1 : ℚ) ≤ x := by
    have := pos_of_mul_pos_left (hx.pos hm) (by positivity)
    exact_mod_cast this
  have hlarge : (2 : ℚ) ^ 1024 ≤ x * 10 ^ j := by
    calc (2 : ℚ) ^ 1024 ≤ 10 ^ 310 := two_pow_1024_le
      _ = 1 * 10 ^ (310 : ℤ) := by rw [one_mul, ← zpow_natCast, Nat.cast_ofNat]
      _ ≤ x * 10 ^ j := by
        gcongr
        · norm_num
        · omega
  exact absurd (hx.lt h he) (not_lt.mpr hlarge)

/-- The shortest decimal of a double lies on the coarsest grid that has a point among the numbers
rounding to the double, and is the nearest of these. -/
theorem shortest_spec (h : IsScaled m e) (hm : 0 < m) (he : e ≤ 971) {x : ℕ} (hj : -324 ≤ j)
    (hx : Near m e (x * 10 ^ j)) :
    ∃ c k, shortest m e = (c, k) ∧ j ≤ k ∧ Near m e (c * 10 ^ k) ∧
      (∀ x : ℕ, Near m e (x * 10 ^ k) →
        |(c : ℚ) * 10 ^ k - m * 2 ^ e| ≤ |(x : ℚ) * 10 ^ k - m * 2 ^ e|) ∧
      ∀ (x : ℕ) (i : ℤ), k < i → ¬ Near m e (x * 10 ^ i) := by
  -- The search meets every grid that has a point, and finds one there.
  have hmem (i : ℤ) (x : ℕ) (hi : -324 ≤ i) (hx : Near m e (x * 10 ^ i)) : i ∈ grids := by
    rw [mem_grids_iff]
    refine ⟨hi, ?_⟩
    by_contra! hlt
    exact not_near_of_coarse h hm he hlt x hx
  have hsome (i : ℤ) (x : ℕ) (hx : Near m e (x * 10 ^ i)) : gridPoint? m e i ≠ none := by
    intro hnone
    have hspec := gridPoint?_spec m e i
    rw [hnone] at hspec
    exact hspec x hx
  cases hf : grids.findSome? fun j => (gridPoint? m e j).map fun c => (c, j) with
  | none =>
    have hnone := List.findSome?_eq_none_iff.mp hf j (hmem j x hj hx)
    exact absurd (Option.map_eq_none_iff.mp hnone) (hsome j x hx)
  | some p =>
    obtain ⟨k, hk, hp, habove⟩ := exists_greatest pairwise_grids hf
    obtain ⟨c, hc, rfl⟩ := Option.map_eq_some_iff.mp hp
    have hcoarser (x : ℕ) (i : ℤ) (hi : k < i) : ¬ Near m e (x * 10 ^ i) := by
      intro hnear
      have hi' := hmem i x (by have := (mem_grids_iff.mp hk).1; omega) hnear
      exact hsome i x hnear (Option.map_eq_none_iff.mp (habove i hi' hi))
    have hspec := gridPoint?_spec m e k
    rw [hc] at hspec
    refine ⟨c, k, by rw [shortest, hf]; rfl, ?_, hspec.1, hspec.2, hcoarser⟩
    by_contra! hlt
    exact hcoarser x j hlt hx

end Search

end ZoneKeeper.Double
