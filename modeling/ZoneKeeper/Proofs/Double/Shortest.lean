import Mathlib
import ZoneKeeper.Double.Shortest
import ZoneKeeper.Json.Number
import ZoneKeeper.Proofs.Json.Canonical

namespace ZoneKeeper

namespace Double
open Json (IsNumeral IsDigits IsMinus IsFraction IsExponent)

theorem isNumeral_zero : IsNumeral (Text.ofString "0") :=
  .intro .absent (Text.isDecimal_ofNat 0) .absent .absent

theorem isDigits_replicate_append (k : ℕ) {t : Text} (h : IsDigits t) :
    IsDigits (List.replicate k 0x30 ++ t) := by
  refine ⟨by simp [h.ne_nil], ?_⟩
  intro u hu
  rcases List.mem_append.mp hu with hu | hu
  · rw [List.eq_of_mem_replicate hu]
    rfl
  · exact h.digits u hu

theorem isDecimal_append_replicate (k : ℕ) {t : Text} (h : Text.IsDecimal t)
    (hlead : t.head? ≠ some 0x30 ∨ k = 0) : Text.IsDecimal (t ++ List.replicate k 0x30) := by
  rcases hlead with hhead | rfl
  · refine ⟨by simp [h.ne_nil], ?_, Or.inr ?_⟩
    · intro u hu
      rcases List.mem_append.mp hu with hu | hu
      · exact h.digits u hu
      · rw [List.eq_of_mem_replicate hu]
        rfl
    · rwa [List.head?_append_of_ne_nil t h.ne_nil]
  · simpa using h

theorem isDecimal_take {k : ℕ} {t : Text} (h : Text.IsDecimal t) (hk : 0 < k)
    (hlead : t.head? ≠ some 0x30 ∨ k = 1) : Text.IsDecimal (t.take k) := by
  obtain ⟨u, t, rfl⟩ := List.exists_cons_of_ne_nil h.ne_nil
  refine ⟨by simp; omega, fun v hv => h.digits v (List.mem_of_mem_take hv), ?_⟩
  rcases hlead with hhead | rfl
  · exact Or.inr (by simpa [List.head?_take, Nat.pos_iff_ne_zero.mp hk] using hhead)
  · exact Or.inl (by simp)

theorem isDigits_drop {k : ℕ} {t : Text} (h : Text.IsDecimal t) (hk : k < t.length) :
    IsDigits (t.drop k) :=
  ⟨by simpa using hk, fun v hv => h.digits v (List.mem_of_mem_drop hv)⟩

theorem isNumeral_scientific {minus digits : Text} (hm : IsMinus minus)
    (h : Text.IsDecimal digits) (n : ℕ) {sign : CodeUnit} (hs : sign = 0x2B ∨ sign = 0x2D) :
    IsNumeral (minus ++ digits.take 1 ++
      (if digits.length ≤ 1 then [] else 0x2E :: digits.drop 1) ++
      0x65 :: sign :: Text.ofNat n) := by
  have hw := isDecimal_take h (k := 1) (by omega) (Or.inr rfl)
  have hd := Text.isDecimal_ofNat n
  have he : IsExponent (0x65 :: sign :: Text.ofNat n) := .signed (Or.inl rfl) hs ⟨hd.1, hd.2⟩
  split_ifs with hone
  · exact .intro hm hw .absent he
  · exact .intro hm hw (.digits (isDigits_drop h (by omega))) he

theorem isNumeral_layout {minus digits : Text} {point : ℤ} (hm : IsMinus minus)
    (h : Text.IsDecimal digits) (hlead : digits.head? ≠ some 0x30 ∨ point = digits.length) :
    IsNumeral (minus ++ layout digits point) := by
  have hlen : 0 < digits.length := List.length_pos_iff.mpr h.ne_nil
  unfold layout
  by_cases h1 : (digits.length : ℤ) ≤ point ∧ point ≤ 21
  · have hk : digits.head? ≠ some 0x30 ∨ (point - digits.length).toNat = 0 :=
      hlead.imp_right fun he => by omega
    have hw := isDecimal_append_replicate (point - digits.length).toNat h hk
    rw [if_pos h1]
    simpa using IsNumeral.intro hm hw .absent .absent
  rw [if_neg h1]
  by_cases h2 : 0 < point ∧ point ≤ 21
  · have hhead : digits.head? ≠ some 0x30 := hlead.resolve_right (by omega)
    have hw := isDecimal_take h (k := point.toNat) (by omega) (Or.inl hhead)
    have hf := IsFraction.digits (isDigits_drop h (k := point.toNat) (by omega))
    rw [if_pos h2]
    simpa using IsNumeral.intro hm hw hf .absent
  rw [if_neg h2]
  by_cases h3 : -6 < point ∧ point ≤ 0
  · have hf := isDigits_replicate_append (-point).toNat ⟨h.ne_nil, h.digits⟩
    have hw : Text.IsDecimal [0x30] := Text.isDecimal_digit (by omega : 0 < 10)
    rw [if_pos h3]
    simpa using IsNumeral.intro hm hw (.digits hf) .absent
  rw [if_neg h3]
  simpa using isNumeral_scientific hm h (point - 1).natAbs (by split_ifs <;> simp)

theorem isNumeral_signed (negative : Bool) {digits : Text} {point : ℤ}
    (h : Text.IsDecimal digits) (hlead : digits.head? ≠ some 0x30 ∨ point = digits.length) :
    IsNumeral (signed negative (layout digits point)) := by
  cases negative with
  | false => exact isNumeral_layout .absent h hlead
  | true => exact isNumeral_layout .present h hlead

theorem le_roundQuotient (num den : ℕ) : num / den ≤ roundQuotient num den := by
  simp only [roundQuotient]
  split_ifs <;> omega

theorem gridPoint?_pos {m c : ℕ} {e j : ℤ} (hm : 0 < m) (h : gridPoint? m e j = some c) :
    0 < c := by
  unfold gridPoint? at h
  extract_lets scale step value low high inside below at h
  have hscale : 0 < scale := Nat.mul_pos (Nat.pow_pos (by omega)) (Nat.pow_pos (by omega))
  have hlow : 0 < low := by
    apply Nat.mul_pos _ hscale
    split_ifs <;> omega
  have hzero : inside 0 = false := by
    simp [inside, Nat.not_le.mpr hlow]
  -- Both candidates are neighbours of the value, so only the lower one could be zero.
  have hbelow : inside below = true → 0 < below := by
    intro hin
    rcases Nat.eq_zero_or_pos below with h0 | hpos
    · rw [h0, hzero] at hin
      exact Bool.noConfusion hin
    · exact hpos
  split_ifs at h with h1 h2 h3
  · rw [Bool.and_eq_true] at h1
    rw [← Option.some.inj h]
    exact (hbelow h1.1).trans_le (le_roundQuotient value step)
  · exact Option.some.inj h ▸ hbelow h2
  · exact Option.some.inj h ▸ Nat.succ_pos below

theorem shortest_pos {m : ℕ} (e : ℤ) (hm : 0 < m) :
    0 < (shortest m e).1 ∨ shortest m e = (0, 0) := by
  unfold shortest
  cases hf : grids.findSome? fun j => (gridPoint? m e j).map fun c => (c, j) with
  | none => exact Or.inr rfl
  | some p =>
    obtain ⟨j, -, hj⟩ := List.exists_of_findSome?_eq_some hf
    obtain ⟨c, hc, rfl⟩ := Option.map_eq_some_iff.mp hj
    exact Or.inl (gridPoint?_pos hm hc)

/-- A finite double is printed as a number that reading takes. -/
theorem isNumeral_toText (negative : Bool) {m : ℕ} {e : ℤ} (hs : IsNormal m e) :
    IsNumeral (finite negative m e hs).toText := by
  unfold toText
  simp only
  split_ifs with hm
  · exact isNumeral_zero
  · have hlead : (Text.ofNat (shortest m e).1).head? ≠ some 0x30 ∨
        ((Text.ofNat (shortest m e).1).length : ℤ) + (shortest m e).2 =
          (Text.ofNat (shortest m e).1).length := by
      rcases shortest_pos e (Nat.pos_of_ne_zero hm) with hpos | hz
      · exact Or.inl (Text.head?_ofNat hpos)
      · exact Or.inr (by rw [hz, add_zero])
    exact isNumeral_signed negative (Text.isDecimal_ofNat _) hlead

end Double

namespace Json

theorem canonical_ofDouble (d : Double) : Canonical (ofDouble d) := by
  cases d with
  | finite negative m e hs => exact .number (Double.isNumeral_toText negative hs)
  | infinite negative => exact .null
  | nan => exact .null

end Json

end ZoneKeeper
