import Mathlib
import ZoneKeeper.Text

namespace ZoneKeeper

namespace CodeUnit

def isHalf (u : CodeUnit) : Bool := u.isHighHalf || u.isLowHalf

theorem isHalf_eq_false_iff (u : CodeUnit) :
    u.isHalf = false ↔ u.toNat < 0xD800 ∨ 0xDFFF < u.toNat := by
  simp only [isHalf, isHighHalf, isLowHalf, Bool.or_eq_false_iff, Bool.and_eq_false_iff,
    decide_eq_false_iff_not, UInt16.le_iff_toNat_le, UInt16.reduceToNat]
  omega

theorem isHighHalf_iff (u : CodeUnit) :
    u.isHighHalf = true ↔ 0xD800 ≤ u.toNat ∧ u.toNat ≤ 0xDBFF := by
  simp [isHighHalf, UInt16.le_iff_toNat_le]

theorem isLowHalf_iff (u : CodeUnit) :
    u.isLowHalf = true ↔ 0xDC00 ≤ u.toNat ∧ u.toNat ≤ 0xDFFF := by
  simp [isLowHalf, UInt16.le_iff_toNat_le]

end CodeUnit

namespace Text
open CodeUnit

@[simp] theorem ofChars_nil : ofChars [] = [] := rfl

@[simp] theorem ofChars_cons (c : Char) (cs : List Char) :
    ofChars (c :: cs) = ofChar c ++ ofChars cs := rfl

theorem ofChars_append (cs ds : List Char) : ofChars (cs ++ ds) = ofChars cs ++ ofChars ds :=
  List.flatMap_append

theorem char_range (c : Char) : c.toNat < 0xD800 ∨ (0xDFFF < c.toNat ∧ c.toNat < 0x110000) :=
  c.valid

theorem toNat_ofNat {n : ℕ} (h : n < 0xD800 ∨ (0xDFFF < n ∧ n < 0x110000)) :
    (Char.ofNat n).toNat = n := by
  rw [Char.toNat_ofNat, if_pos h]

theorem ofChar_of_lt {c : Char} (h : c.toNat < 0x10000) : ofChar c = [c.toNat.toUInt16] := by
  simp [ofChar, h]

theorem chars_cons_of_not_half {u : CodeUnit} (h : u.isHalf = false) (t : Text) :
    chars (u :: t) = Char.ofNat u.toNat :: chars t := by
  have hh : u.isHighHalf = false ∧ u.isLowHalf = false := by simpa [isHalf] using h
  have hu : unitChar u = Char.ofNat u.toNat := by simp [unitChar, hh]
  cases t with
  | nil => simp [chars, hu]
  | cons v t => simp [chars, hh, hu]

theorem chars_cons_of_pair {u v : CodeUnit} (hu : u.isHighHalf = true) (hv : v.isLowHalf = true)
    (t : Text) : chars (u :: v :: t) = pairChar u v :: chars t := by
  simp [chars, hu, hv]

theorem chars_ofChar_append (c : Char) (t : Text) : chars (ofChar c ++ t) = c :: chars t := by
  have hc := char_range c
  by_cases h : c.toNat < 0x10000
  · have hn : c.toNat.toUInt16.toNat = c.toNat := by simp; omega
    rw [ofChar_of_lt h, List.singleton_append, chars_cons_of_not_half, hn, Char.ofNat_toNat]
    rw [isHalf_eq_false_iff, hn]
    omega
  -- Ten bits of the offset go into each half.
  · have hhigh : (0xD800 + (c.toNat - 0x10000) / 0x400).toUInt16.toNat =
        0xD800 + (c.toNat - 0x10000) / 0x400 := by simp; omega
    have hlow : (0xDC00 + (c.toNat - 0x10000) % 0x400).toUInt16.toNat =
        0xDC00 + (c.toNat - 0x10000) % 0x400 := by simp; omega
    simp only [ofChar, if_neg h, List.cons_append, List.nil_append]
    rw [chars_cons_of_pair, pairChar, hhigh, hlow]
    · rw [show 0x10000 + (0xD800 + (c.toNat - 0x10000) / 0x400 - 0xD800) * 0x400 +
        (0xDC00 + (c.toNat - 0x10000) % 0x400 - 0xDC00) = c.toNat by omega, Char.ofNat_toNat]
    · rw [isHighHalf_iff, hhigh]
      omega
    · rw [isLowHalf_iff, hlow]
      omega

theorem chars_ofChars (cs : List Char) : chars (ofChars cs) = cs := by
  induction cs with
  | nil => rfl
  | cons c cs ih => rw [ofChars_cons, chars_ofChar_append, ih]

/-- No half of a pair stands alone in the text. -/
def Spelled (t : Text) : Prop := ∃ cs, t = ofChars cs

theorem spelled_ofChars (cs : List Char) : Spelled (ofChars cs) := ⟨cs, rfl⟩

theorem spelled_ofString (s : String) : Spelled (ofString s) := spelled_ofChars _

theorem spelled_nil : Spelled [] := ⟨[], rfl⟩

theorem Spelled.append {s t : Text} (hs : Spelled s) (ht : Spelled t) : Spelled (s ++ t) := by
  obtain ⟨cs, rfl⟩ := hs
  obtain ⟨ds, rfl⟩ := ht
  exact ⟨cs ++ ds, (ofChars_append cs ds).symm⟩

theorem spelled_repair (t : Text) : Spelled (repair t) := spelled_ofChars _

theorem Spelled.repair_eq {t : Text} (h : Spelled t) : repair t = t := by
  obtain ⟨cs, rfl⟩ := h
  rw [repair, chars_ofChars]

theorem ofChar_ofNat_toNat {u : CodeUnit} (h : u.isHalf = false) :
    ofChar (Char.ofNat u.toNat) = [u] := by
  have hu := (isHalf_eq_false_iff u).mp h
  have hlt : u.toNat < 0x10000 := u.toNat_lt
  have hn : (Char.ofNat u.toNat).toNat = u.toNat :=
    toNat_ofNat (by omega)
  rw [ofChar_of_lt (by omega), hn]
  simp

theorem spelled_unit {u : CodeUnit} (h : u.isHalf = false) : Spelled [u] :=
  ⟨[Char.ofNat u.toNat], by simp [ofChar_ofNat_toNat h]⟩

theorem Spelled.cons {u : CodeUnit} {t : Text} (h : u.isHalf = false) (ht : Spelled t) :
    Spelled (u :: t) := (spelled_unit h).append ht

theorem spelled_of_forall {t : Text} (h : ∀ u ∈ t, u.isHalf = false) : Spelled t := by
  induction t with
  | nil => exact spelled_nil
  | cons u t ih =>
    exact .cons (h u (by simp)) (ih fun v hv => h v (by simp [hv]))

theorem toNat_pairChar {u v : CodeUnit} (hu : u.isHighHalf = true) (hv : v.isLowHalf = true) :
    (pairChar u v).toNat = 0x10000 + (u.toNat - 0xD800) * 0x400 + (v.toNat - 0xDC00) := by
  rw [isHighHalf_iff] at hu
  rw [isLowHalf_iff] at hv
  rw [pairChar]
  exact toNat_ofNat (by omega)

theorem spelled_pair {u v : CodeUnit} (hu : u.isHighHalf = true) (hv : v.isLowHalf = true) :
    Spelled [u, v] := by
  have hn := toNat_pairChar hu hv
  refine ⟨[pairChar u v], ?_⟩
  rw [isHighHalf_iff] at hu
  rw [isLowHalf_iff] at hv
  have hhigh : (0xD800 + ((pairChar u v).toNat - 0x10000) / 0x400).toUInt16 = u := by
    rw [← UInt16.toNat_inj, hn]
    simp
    omega
  have hlow : (0xDC00 + ((pairChar u v).toNat - 0x10000) % 0x400).toUInt16 = v := by
    rw [← UInt16.toNat_inj, hn]
    simp
    omega
  have hge : ¬ (pairChar u v).toNat < 0x10000 := by omega
  simp only [ofChars_cons, ofChars_nil, ofChar, if_neg hge, List.append_nil, hhigh, hlow]

theorem eq_of_unitChar {u : CodeUnit} (h : (unitChar u).toNat < 0x80) :
    (unitChar u).toNat.toUInt16 = u := by
  unfold unitChar at h ⊢
  split_ifs at h ⊢ with hhalf
  · exact absurd h (by decide)
  · have hu := (isHalf_eq_false_iff u).mp (by simpa [isHalf] using hhalf)
    have hlt : u.toNat < 0x10000 := u.toNat_lt
    rw [toNat_ofNat (by omega)]
    simp

theorem mem_of_mem_chars {t : Text} {c : Char} (hc : c.toNat < 0x80) (h : c ∈ chars t) :
    c.toNat.toUInt16 ∈ t := by
  induction t using chars.induct with
  | case1 => exact absurd h List.not_mem_nil
  | case2 u =>
    rw [List.mem_singleton.mp h] at hc ⊢
    rw [eq_of_unitChar hc]
    exact List.mem_singleton_self u
  | case3 u v r hpair ih =>
    rw [chars, if_pos hpair] at h
    rcases List.mem_cons.mp h with he | h
    · rw [Bool.and_eq_true] at hpair
      rw [he, toNat_pairChar hpair.1 hpair.2] at hc
      omega
    · simp [ih h]
  | case4 u v r hpair ih =>
    rw [chars, if_neg hpair] at h
    rcases List.mem_cons.mp h with he | h
    · rw [he] at hc ⊢
      rw [eq_of_unitChar hc]
      exact List.mem_cons_self
    · exact List.mem_cons_of_mem u (ih h)

/-- A unit that is no half keeps what comes before it from what comes after. -/
theorem chars_append_cons {u : CodeUnit} (h : u.isHalf = false) (s t : Text) :
    chars (s ++ u :: t) = chars s ++ chars (u :: t) := by
  have hlow : u.isLowHalf = false := (Bool.or_eq_false_iff.mp h).2
  induction s using chars.induct with
  | case1 => rfl
  | case2 v => simp [chars, hlow]
  | case3 v w r hpair ih => simp [chars, hpair, ih]
  | case4 v w r hpair ih =>
    rw [List.cons_append, List.cons_append, chars, if_neg hpair, chars, if_neg hpair,
      ← List.cons_append, ih, List.cons_append]

theorem repair_append_cons {u : CodeUnit} (h : u.isHalf = false) (s t : Text) :
    repair (s ++ u :: t) = repair s ++ u :: repair t := by
  rw [repair, chars_append_cons h, chars_cons_of_not_half h, ofChars_append, ofChars_cons,
    ofChar_ofNat_toNat h]
  rfl

theorem Spelled.repair_append {s : Text} (hs : Spelled s) (t : Text) :
    repair (s ++ t) = s ++ repair t := by
  obtain ⟨cs, rfl⟩ := hs
  induction cs with
  | nil => rfl
  | cons c cs ih =>
    rw [repair] at ih ⊢
    rw [ofChars_cons, List.append_assoc, chars_ofChar_append, ofChars_cons, ih, List.append_assoc]

theorem mem_of_mem_repair {t : Text} {u : CodeUnit} (hu : u.toNat < 0x80) (h : u ∈ repair t) :
    u ∈ t := by
  obtain ⟨c, hc, hmem⟩ := List.mem_flatMap.mp h
  by_cases hlt : c.toNat < 0x10000
  · rw [ofChar_of_lt hlt, List.mem_singleton] at hmem
    have hn : u.toNat = c.toNat := by
      rw [hmem]
      simp
      omega
    rw [hmem]
    exact mem_of_mem_chars (by omega) hc
  -- The units of a pair are halves, which are far from ASCII.
  · have hrange := char_range c
    rw [ofChar, if_neg hlt, List.mem_pair] at hmem
    rcases hmem with rfl | rfl
    · simp at hu
      omega
    · simp at hu
      omega

end Text

end ZoneKeeper
