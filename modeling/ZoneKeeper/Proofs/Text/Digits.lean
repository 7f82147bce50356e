import Mathlib
import ZoneKeeper.Proofs.Text.Characters

namespace ZoneKeeper.Text

def digit (n : ℕ) : CodeUnit := 0x30 + n.toUInt16

theorem toNat_digit {n : ℕ} (h : n < 10) : (digit n).toNat = n + 0x30 := by
  interval_cases n <;> rfl

theorem isDigit_iff (u : CodeUnit) : u.isDigit = true ↔ 0x30 ≤ u.toNat ∧ u.toNat ≤ 0x39 := by
  simp [CodeUnit.isDigit, UInt16.le_iff_toNat_le]

theorem isDigit_digit {n : ℕ} (h : n < 10) : (digit n).isDigit = true := by
  rw [isDigit_iff, toNat_digit h]
  omega

theorem digit_of_isDigit {u : CodeUnit} (h : u.isDigit = true) : digit (u.toNat - 0x30) = u := by
  rw [isDigit_iff] at h
  rw [← UInt16.toNat_inj, toNat_digit (by omega)]
  omega

theorem ofNat_of_lt {n : ℕ} (h : n < 10) : ofNat n = [digit n] := by
  interval_cases n <;> rfl

theorem ofNat_append {n d : ℕ} (hn : 0 < n) (hd : d < 10) :
    ofNat (10 * n + d) = ofNat n ++ [digit d] := by
  rw [ofNat, ← Nat.toDigits_append_toDigits (by omega) hn hd, ofChars_append, ← ofNat, ← ofNat,
    ofNat_of_lt hd]

/-- The last digit comes off, until one is left. -/
theorem ofNat_induction {P : ℕ → Text → Prop} (one : ∀ d < 10, P d [digit d])
    (more : ∀ n d, 0 < n → d < 10 → P n (ofNat n) → P (10 * n + d) (ofNat n ++ [digit d]))
    (n : ℕ) : P n (ofNat n) := by
  induction n using Nat.strongRecOn with
  | ind n ih =>
    by_cases hn : n < 10
    · rw [ofNat_of_lt hn]
      exact one n hn
    · have h := more (n / 10) (n % 10) (by omega) (by omega) (ih (n / 10) (by omega))
      rwa [← ofNat_append (by omega) (by omega), show 10 * (n / 10) + n % 10 = n by omega] at h

theorem ofNat_ne_nil (n : ℕ) : ofNat n ≠ [] :=
  ofNat_induction (P := fun _ t => t ≠ []) (by simp) (by simp) n

theorem digitsValue_append (t : Text) (u : CodeUnit) :
    digitsValue (t ++ [u]) = 10 * digitsValue t + (u.toNat - 0x30) := by
  simp [digitsValue]

theorem digitsValue_digit {d : ℕ} (h : d < 10) : digitsValue [digit d] = d := by
  simp [digitsValue, toNat_digit h]

theorem digitsValue_ofNat (n : ℕ) : digitsValue (ofNat n) = n := by
  refine ofNat_induction (P := fun n t => digitsValue t = n) (fun d => digitsValue_digit) ?_ n
  intro n d _ hd ih
  rw [digitsValue_append, ih, toNat_digit hd]
  omega

/-- One digit, or more of which the first is not zero. -/
structure IsDecimal (t : Text) : Prop where
  ne_nil : t ≠ []
  digits : ∀ u ∈ t, u.isDigit = true
  leads : t.length = 1 ∨ t.head? ≠ some 0x30

theorem isDecimal_digit {n : ℕ} (h : n < 10) : IsDecimal [digit n] :=
  ⟨by simp, by simpa using isDigit_digit h, Or.inl rfl⟩

/-- A class with all digits of a base holds the text of every number in that base. -/
theorem all_ofChars_toDigits {base : ℕ} (hb : 1 < base) {p : CodeUnit → Bool}
    (h : ∀ d < base, (ofChar (Nat.digitChar d)).all p = true) (n : ℕ) :
    (ofChars (Nat.toDigits base n)).all p = true := by
  induction n using Nat.strongRecOn with
  | ind n ih =>
    by_cases hn : n < base
    · simpa [Nat.toDigits_of_lt_base hn, ofChars] using h n hn
    -- The last digit comes off, and the others spell the quotient.
    · have hdiv : 0 < n / base := Nat.div_pos (by omega) (by omega)
      have hmod : n % base < base := Nat.mod_lt n (by omega)
      have hsplit := Nat.toDigits_append_toDigits hb hdiv hmod
      rw [Nat.div_add_mod, Nat.toDigits_of_lt_base hmod] at hsplit
      rw [← hsplit, ofChars_append, List.all_append, ih _ (Nat.div_lt_self (by omega) hb)]
      simpa [ofChars] using h _ hmod

theorem isDigit_of_mem_ofNat (n : ℕ) : ∀ u ∈ ofNat n, u.isDigit = true :=
  List.all_eq_true.mp (all_ofChars_toDigits (by decide) (by decide) n)

theorem head?_ofNat {n : ℕ} (h : 0 < n) : (ofNat n).head? ≠ some 0x30 := by
  refine ofNat_induction (P := fun n t => 0 < n → t.head? ≠ some 0x30) ?_ ?_ n h
  · intro d hd hpos
    interval_cases d <;> decide
  · intro n d hn _ ih _
    rw [List.head?_append_of_ne_nil _ (ofNat_ne_nil n)]
    exact ih hn

theorem isDecimal_ofNat (n : ℕ) : IsDecimal (ofNat n) := by
  refine ⟨ofNat_ne_nil n, isDigit_of_mem_ofNat n, ?_⟩
  rcases Nat.eq_zero_or_pos n with rfl | hn
  · exact Or.inl rfl
  · exact Or.inr (head?_ofNat hn)

theorem ofNat_digitsValue_of_head {t : Text} (hne : t ≠ []) (hd : ∀ u ∈ t, u.isDigit = true)
    (hhead : t.head? ≠ some 0x30) : 0 < digitsValue t ∧ ofNat (digitsValue t) = t := by
  induction t using List.reverseRecOn with
  | nil => exact absurd rfl hne
  | append_singleton s u ih =>
    have hu : u.isDigit = true := hd u (by simp)
    have hnat := (isDigit_iff u).mp hu
    rw [digitsValue_append]
    by_cases hs : s = []
    · subst hs
      have hzero : u.toNat ≠ 0x30 := by
        intro he
        exact hhead (by rw [← digit_of_isDigit hu, he]; rfl)
      have hvalue : digitsValue [] = 0 := rfl
      rw [hvalue, Nat.mul_zero, Nat.zero_add, ofNat_of_lt (by omega), digit_of_isDigit hu]
      exact ⟨by omega, rfl⟩
    · have hshead : s.head? ≠ some 0x30 := by
        rwa [List.head?_append_of_ne_nil s hs] at hhead
      obtain ⟨hpos, heq⟩ := ih hs (fun v hv => hd v (by simp [hv])) hshead
      refine ⟨by omega, ?_⟩
      rw [ofNat_append hpos (by omega), heq, digit_of_isDigit hu]

theorem IsDecimal.ofNat_digitsValue {t : Text} (h : IsDecimal t) : ofNat (digitsValue t) = t := by
  rcases h.leads with hone | hhead
  · obtain ⟨u, rfl⟩ := List.length_eq_one_iff.mp hone
    have hu : u.isDigit = true := h.digits u (by simp)
    have hnat := (isDigit_iff u).mp hu
    have hvalue : digitsValue [u] = u.toNat - 0x30 := by simp [digitsValue]
    rw [hvalue, ofNat_of_lt (by omega), digit_of_isDigit hu]
  · exact (ofNat_digitsValue_of_head h.ne_nil h.digits hhead).2

end ZoneKeeper.Text
