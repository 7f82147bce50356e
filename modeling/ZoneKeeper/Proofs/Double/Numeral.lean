import Mathlib
import ZoneKeeper.Double.Numeral
import ZoneKeeper.Double.Shortest
import ZoneKeeper.Proofs.Double.Value
import ZoneKeeper.Proofs.Json.Numeral

namespace ZoneKeeper

namespace Text

theorem digitsValue_append_zeros (t : Text) (k : ℕ) :
    digitsValue (t ++ List.replicate k 0x30) = digitsValue t * 10 ^ k := by
  induction k with
  | zero => simp
  | succ k ih =>
    rw [List.replicate_succ', ← List.append_assoc, digitsValue_append, ih]
    simp only [UInt16.toNat_ofNat]
    ring

theorem digitsValue_zeros_append (k : ℕ) (t : Text) :
    digitsValue (List.replicate k 0x30 ++ t) = digitsValue t := by
  have hzero : digitsValue (List.replicate k 0x30) = 0 := by
    simpa [digitsValue] using digitsValue_append_zeros [] k
  unfold digitsValue at hzero ⊢
  rw [List.foldl_append, hzero]

end Text

namespace Double
open Json (IsDigits NoDigit)

structure Decimal where
  negative : Bool
  coefficient : ℕ
  exponent : ℤ

def Decimal.value (d : Decimal) : ℚ := sign d.negative * d.coefficient * 10 ^ d.exponent

/-- What a numeral spells, before it is rounded. -/
def decimal? (t : Text) : Option Decimal :=
  let (negative, t) := splitSign t
  let whole := t.takeWhile CodeUnit.isDigit
  let (fraction, t) : Text × Text :=
    match t.dropWhile CodeUnit.isDigit with
    | 0x2E :: r => (r.takeWhile CodeUnit.isDigit, r.dropWhile CodeUnit.isDigit)
    | r => ([], r)
  if whole ++ fraction = [] then none
  else (exponent? t).map fun e =>
    ⟨negative, Text.digitsValue (whole ++ fraction), e - fraction.length⟩

/-- The text is a numeral for exactly this number. -/
def Denotes (t : Text) (x : ℚ) : Prop := ∃ d, decimal? t = some d ∧ d.value = x

theorem Denotes.unique {t : Text} {x y : ℚ} (hx : Denotes t x) (hy : Denotes t y) : x = y := by
  obtain ⟨d, hd, rfl⟩ := hx
  obtain ⟨d', hd', rfl⟩ := hy
  rw [Option.some.inj (hd.symm.trans hd')]

/-- Reading a numeral is rounding what it spells. -/
theorem ofDecimal?_eq (t : Text) :
    ofDecimal? t = (decimal? t).map fun d => ofScientific d.negative d.coefficient d.exponent := by
  simp only [ofDecimal?, decimal?, apply_ite (Option.map _), Option.map_none, Option.map_map]
  rfl

section Parts
variable {whole fraction tail : Text} {e : ℤ}

theorem head_of_isDigits (h : IsDigits whole) :
    ∃ u t, whole = u :: t ∧ u.isDigit = true ∧ u ≠ 0x2B ∧ u ≠ 0x2D := by
  obtain ⟨u, t, rfl⟩ := List.exists_cons_of_ne_nil h.ne_nil
  have hu : u.isDigit = true := h.digits u (by simp)
  refine ⟨u, t, rfl, hu, ?_, ?_⟩
  · rintro rfl
    exact absurd hu (by decide)
  · rintro rfl
    exact absurd hu (by decide)

theorem splitSign_signed (negative : Bool) (h : IsDigits whole) (r : Text) :
    splitSign (signed negative (whole ++ r)) = (negative, whole ++ r) := by
  obtain ⟨u, t, rfl, -, hplus, hminus⟩ := head_of_isDigits h
  cases negative with
  | true => rfl
  | false => simp [signed, splitSign, hplus, hminus]

theorem noDigit_of_exponent? (h : exponent? tail = some e) :
    NoDigit tail ∧ tail.head? ≠ some 0x2E := by
  cases tail with
  | nil => exact ⟨Json.stops_nil.noDigit, by simp⟩
  | cons u r =>
    have hu : u = 0x65 ∨ u = 0x45 := by
      by_contra hu
      simp [exponent?, not_or.mp hu] at h
    rcases hu with rfl | rfl
    · exact ⟨Json.noDigit_cons (by decide) r, by simp⟩
    · exact ⟨Json.noDigit_cons (by decide) r, by simp⟩

theorem decimal?_whole (negative : Bool) (hw : IsDigits whole) (ht : exponent? tail = some e) :
    decimal? (signed negative (whole ++ tail)) = some ⟨negative, Text.digitsValue whole, e⟩ := by
  obtain ⟨hdigit, hdot⟩ := noDigit_of_exponent? ht
  obtain ⟨htake, hdrop⟩ := Prod.mk.inj (Json.spanDigits_append hw.digits hdigit)
  simp only [decimal?, splitSign_signed negative hw, htake, hdrop]
  split
  · exact absurd rfl hdot
  · simp [hw.ne_nil, ht]

theorem decimal?_fraction (negative : Bool) (hw : IsDigits whole)
    (hf : ∀ u ∈ fraction, u.isDigit = true) (ht : exponent? tail = some e) :
    decimal? (signed negative (whole ++ 0x2E :: (fraction ++ tail))) =
      some ⟨negative, Text.digitsValue (whole ++ fraction), e - fraction.length⟩ := by
  have hdot : NoDigit (0x2E :: (fraction ++ tail)) := Json.noDigit_cons (by decide) _
  obtain ⟨hdigit, -⟩ := noDigit_of_exponent? ht
  obtain ⟨htake, hdrop⟩ := Prod.mk.inj (Json.spanDigits_append hw.digits hdot)
  obtain ⟨htake', hdrop'⟩ := Prod.mk.inj (Json.spanDigits_append hf hdigit)
  simp only [decimal?, splitSign_signed negative hw, htake, hdrop, htake', hdrop']
  simp [hw.ne_nil, ht]

end Parts

theorem exponent?_nil : exponent? [] = some 0 := rfl

theorem exponent?_signed (e : ℤ) :
    exponent? (0x65 :: (if e < 0 then 0x2D else 0x2B) :: Text.ofNat e.natAbs) = some e := by
  have hd : (Text.ofNat e.natAbs).all CodeUnit.isDigit = true :=
    List.all_eq_true.mpr (Text.isDigit_of_mem_ofNat _)
  rcases lt_or_ge e 0 with he | he
  · rw [if_pos he]
    simp [exponent?, splitSign, Text.ofNat_ne_nil, hd, Text.digitsValue_ofNat, abs_of_neg he]
  · rw [if_neg (not_lt.mpr he)]
    simp [exponent?, splitSign, Text.ofNat_ne_nil, hd, Text.digitsValue_ofNat, abs_of_nonneg he]

section Digits
variable {s t : Text}

theorem isDigit_zeros (k : ℕ) : ∀ u ∈ List.replicate k (0x30 : CodeUnit), u.isDigit = true := by
  intro u hu
  rw [List.eq_of_mem_replicate hu]
  rfl

theorem isDigit_append (hs : ∀ u ∈ s, u.isDigit = true) (ht : ∀ u ∈ t, u.isDigit = true) :
    ∀ u ∈ s ++ t, u.isDigit = true := by
  intro u hu
  exact (List.mem_append.mp hu).elim (hs u) (ht u)

theorem isDigits_take (h : IsDigits t) {k : ℕ} (hk : 0 < k) : IsDigits (t.take k) :=
  ⟨by simp [h.ne_nil]; omega, fun u hu => h.digits u (List.mem_of_mem_take hu)⟩

end Digits

section Layout
variable (negative : Bool) {digits : Text} (h : IsDigits digits) (point : ℤ)
include h

theorem denotes_zeros (k : ℕ) :
    Denotes (signed negative (digits ++ List.replicate k 0x30))
      (sign negative * Text.digitsValue digits * 10 ^ (k : ℤ)) := by
  have hw : IsDigits (digits ++ List.replicate k 0x30) :=
    ⟨by simp [h.ne_nil], isDigit_append h.digits (isDigit_zeros k)⟩
  have hd := decimal?_whole negative hw exponent?_nil
  rw [List.append_nil] at hd
  refine ⟨_, hd, ?_⟩
  simp only [Decimal.value, Text.digitsValue_append_zeros]
  push_cast
  rw [zpow_natCast]
  ring

theorem denotes_point {k : ℕ} (hpos : 0 < k) (hk : k ≤ digits.length) :
    Denotes (signed negative (digits.take k ++ 0x2E :: digits.drop k))
      (sign negative * Text.digitsValue digits * 10 ^ ((k : ℤ) - digits.length)) := by
  have hf : ∀ u ∈ digits.drop k, u.isDigit = true :=
    fun u hu => h.digits u (List.mem_of_mem_drop hu)
  have hd := decimal?_fraction negative (isDigits_take h hpos) hf exponent?_nil
  rw [List.append_nil, List.take_append_drop] at hd
  refine ⟨_, hd, ?_⟩
  rw [Decimal.value, List.length_drop, Nat.cast_sub hk]
  congr 2
  ring

theorem denotes_small (k : ℕ) :
    Denotes (signed negative (0x30 :: 0x2E :: List.replicate k 0x30 ++ digits))
      (sign negative * Text.digitsValue digits * 10 ^ (-(k : ℤ) - digits.length)) := by
  have hw : IsDigits [0x30] := ⟨by simp, by simp; decide⟩
  have hf := isDigit_append (isDigit_zeros k) h.digits
  have hd := decimal?_fraction negative hw hf exponent?_nil
  have hvalue := Text.digitsValue_zeros_append (k + 1) digits
  rw [List.append_nil] at hd
  rw [List.replicate_succ] at hvalue
  refine ⟨_, hd, ?_⟩
  rw [Decimal.value, List.singleton_append, ← List.cons_append, hvalue]
  congr 2
  simp
  ring

theorem denotes_scientific {tail : Text} {e : ℤ} (ht : exponent? tail = some e) :
    Denotes (signed negative (digits.take 1 ++
        (if digits.length ≤ 1 then [] else 0x2E :: digits.drop 1) ++ tail))
      (sign negative * Text.digitsValue digits * 10 ^ (e + 1 - digits.length)) := by
  have hlen : 0 < digits.length := List.length_pos_iff.mpr h.ne_nil
  have hw : IsDigits (digits.take 1) := isDigits_take h one_pos
  split_ifs with hone
  · have hd := decimal?_whole negative hw ht
    rw [List.take_of_length_le hone] at hd ⊢
    rw [List.append_nil]
    refine ⟨_, hd, ?_⟩
    rw [Decimal.value, show digits.length = 1 by omega]
    simp
  · have hf : ∀ u ∈ digits.drop 1, u.isDigit = true :=
      fun u hu => h.digits u (List.mem_of_mem_drop hu)
    have hd := decimal?_fraction negative hw hf ht
    rw [List.take_append_drop, List.length_drop, Nat.cast_sub hlen] at hd
    refine ⟨_, by simpa only [List.append_assoc, List.cons_append] using hd, ?_⟩
    rw [Decimal.value, Nat.cast_one]
    congr 2
    ring

/-- Wherever the point of some digits is put, a layout of them denotes the same number. -/
theorem denotes_layout :
    Denotes (signed negative (layout digits point))
      (sign negative * Text.digitsValue digits * 10 ^ (point - digits.length)) := by
  unfold layout
  extract_lets count
  split_ifs with h1 h2 h3
  · have hz := denotes_zeros negative h (point - count).toNat
    rwa [Int.toNat_of_nonneg (by omega)] at hz
  · have hp := denotes_point negative h (k := point.toNat) (by omega) (by omega)
    rwa [Int.toNat_of_nonneg (by omega)] at hp
  · have hs := denotes_small negative h (-point).toNat
    rwa [Int.toNat_of_nonneg (by omega), neg_neg] at hs
  · have hs := denotes_scientific negative h (exponent?_signed (point - 1))
    rw [sub_add_cancel] at hs
    simpa only [sub_neg, zero_add] using hs

end Layout

theorem decimal?_ofNat (negative : Bool) (n : ℕ) :
    decimal? (signed negative (Text.ofNat n)) = some ⟨negative, n, 0⟩ := by
  have hw : IsDigits (Text.ofNat n) := ⟨Text.ofNat_ne_nil n, Text.isDigit_of_mem_ofNat n⟩
  have hd := decimal?_whole negative hw exponent?_nil
  rwa [List.append_nil, Text.digitsValue_ofNat] at hd

/-- What is printed for a double is the number that the search for its shortest decimal finds. -/
theorem denotes_toText (negative : Bool) {m : ℕ} (hm : m ≠ 0) {e : ℤ} (hs : IsNormal m e) :
    Denotes (finite negative m e hs).toText
      (sign negative * (shortest m e).1 * 10 ^ (shortest m e).2) := by
  have hw : IsDigits (Text.ofNat (shortest m e).1) :=
    ⟨Text.ofNat_ne_nil _, Text.isDigit_of_mem_ofNat _⟩
  have hd := denotes_layout negative hw ((Text.ofNat (shortest m e).1).length + (shortest m e).2)
  rw [Text.digitsValue_ofNat, add_sub_cancel_left] at hd
  simpa only [toText, if_neg hm] using hd

end Double

end ZoneKeeper
