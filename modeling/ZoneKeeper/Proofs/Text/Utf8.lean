import Mathlib
import ZoneKeeper.Proofs.Text.Characters
import ZoneKeeper.Text.Utf8

namespace ZoneKeeper.Utf8

theorem start_one {n : ℕ} (h : n ≤ 0x7F) : start (UInt8.ofNat n) = ([Char.ofNat n], none) := by
  have hn : (UInt8.ofNat n).toNat = n := by simp; omega
  rw [start, if_pos (by rw [UInt8.le_iff_toNat_le, hn]; exact h), hn]

theorem start_two {n : ℕ} (h : 2 ≤ n) (h' : n < 0x20) :
    start (UInt8.ofNat (n + 0xC0)) = ([], some ⟨1, n, 0x80, 0xBF⟩) := by
  interval_cases n <;> rfl

theorem start_three {n : ℕ} (h : n < 0x10) :
    start (UInt8.ofNat (n + 0xE0)) =
      ([], some ⟨2, n, if n = 0 then 0xA0 else 0x80, if n = 0xD then 0x9F else 0xBF⟩) := by
  interval_cases n <;> rfl

theorem start_four {n : ℕ} (h : n < 5) :
    start (UInt8.ofNat (n + 0xF0)) =
      ([], some ⟨3, n, if n = 0 then 0x90 else 0x80, if n = 4 then 0x8F else 0xBF⟩) := by
  interval_cases n <;> rfl

/-- Six more bits of a sequence that is open. -/
theorem decodeFrom_some {s : Unfinished} {n : ℕ} (h : n < 0x40) (hlow : s.low.toNat ≤ n + 0x80)
    (hhigh : n + 0x80 ≤ s.high.toNat) (r : List UInt8) :
    decodeFrom (some s) (UInt8.ofNat (n + 0x80) :: r) =
      if s.more ≤ 1 then Char.ofNat (s.bits * 0x40 + n) :: decodeFrom none r
      else decodeFrom (some ⟨s.more - 1, s.bits * 0x40 + n, 0x80, 0xBF⟩) r := by
  have hn : (UInt8.ofNat (n + 0x80)).toNat = n + 0x80 := by simp; omega
  have hm : (n + 0x80) % 0x40 = n := by omega
  have hin : s.low ≤ UInt8.ofNat (n + 0x80) && UInt8.ofNat (n + 0x80) ≤ s.high := by
    simp only [UInt8.le_iff_toNat_le, hn, Bool.and_eq_true, decide_eq_true_eq]
    exact ⟨hlow, hhigh⟩
  rw [decodeFrom, if_pos hin, hn, hm]

theorem decodeFrom_none {b : UInt8} {s : Unfinished} (h : start b = ([], some s))
    (r : List UInt8) : decodeFrom none (b :: r) = decodeFrom (some s) r := by
  rw [decodeFrom, h, List.nil_append]

section Sequences
variable {n : ℕ} (r : List UInt8)

theorem decodeFrom_two (h : 0x7F < n) (h' : n ≤ 0x7FF) :
    decodeFrom none
        (UInt8.ofNat (n / 64 % 0x20 + 0xC0) :: UInt8.ofNat (n % 0x40 + 0x80) :: r) =
      Char.ofNat n :: decodeFrom none r := by
  have hn : n / 64 % 0x20 * 0x40 + n % 0x40 = n := by omega
  rw [decodeFrom_none (start_two (by omega) (by omega)),
    decodeFrom_some (by omega) (by simp) (by simp; omega), if_pos le_rfl]
  simp only [hn]

/-- The second byte is limited so that no shorter sequence and no half of a pair is spelled. -/
theorem decodeFrom_three (h : 0x7FF < n) (h' : n ≤ 0xFFFF) (hhalf : n < 0xD800 ∨ 0xDFFF < n) :
    decodeFrom none
        (UInt8.ofNat (n / 4096 % 0x10 + 0xE0) :: UInt8.ofNat (n / 64 % 0x40 + 0x80) ::
          UInt8.ofNat (n % 0x40 + 0x80) :: r) =
      Char.ofNat n :: decodeFrom none r := by
  have hn : (n / 4096 % 0x10 * 0x40 + n / 64 % 0x40) * 0x40 + n % 0x40 = n := by omega
  have hlow : (if n / 4096 % 0x10 = 0 then 0xA0 else 0x80 : UInt8).toNat ≤
      n / 64 % 0x40 + 0x80 := by
    split_ifs <;> simp
    omega
  have hhigh : n / 64 % 0x40 + 0x80 ≤
      (if n / 4096 % 0x10 = 0xD then 0x9F else 0xBF : UInt8).toNat := by
    split_ifs <;> simp <;> omega
  rw [decodeFrom_none (start_three (by omega)), decodeFrom_some (by omega) hlow hhigh,
    if_neg (by simp), decodeFrom_some (by omega) (by simp) (by simp; omega), if_pos (by simp)]
  simp only [hn]

/-- The second byte is limited so that no shorter sequence and nothing past the last character is
spelled. -/
theorem decodeFrom_four (h : 0xFFFF < n) (h' : n < 0x110000) :
    decodeFrom none
        (UInt8.ofNat (n / 262144 % 0x08 + 0xF0) :: UInt8.ofNat (n / 4096 % 0x40 + 0x80) ::
          UInt8.ofNat (n / 64 % 0x40 + 0x80) :: UInt8.ofNat (n % 0x40 + 0x80) :: r) =
      Char.ofNat n :: decodeFrom none r := by
  have hlead : n / 262144 % 0x08 = n / 262144 := by omega
  have hn : ((n / 262144 * 0x40 + n / 4096 % 0x40) * 0x40 + n / 64 % 0x40) * 0x40 + n % 0x40 =
      n := by omega
  have hlow : (if n / 262144 = 0 then 0x90 else 0x80 : UInt8).toNat ≤ n / 4096 % 0x40 + 0x80 := by
    split_ifs <;> simp
    omega
  have hhigh : n / 4096 % 0x40 + 0x80 ≤ (if n / 262144 = 4 then 0x8F else 0xBF : UInt8).toNat := by
    split_ifs <;> simp <;> omega
  rw [hlead, decodeFrom_none (start_four (by omega)), decodeFrom_some (by omega) hlow hhigh,
    if_neg (by simp), decodeFrom_some (by omega) (by simp) (by simp; omega), if_neg (by simp),
    decodeFrom_some (by omega) (by simp) (by simp; omega), if_pos (by simp)]
  simp only [hn]

end Sequences

theorem decodeFrom_utf8EncodeChar (c : Char) (r : List UInt8) :
    decodeFrom none (String.utf8EncodeChar c ++ r) = c :: decodeFrom none r := by
  have hc := Text.char_range c
  have hv : c.val.toNat = c.toNat := rfl
  simp only [String.utf8EncodeChar, hv]
  split_ifs with h1 h2 h3
  · rw [List.singleton_append, decodeFrom, start_one h1, Char.ofNat_toNat, List.singleton_append]
  · have htwo := decodeFrom_two r (Nat.lt_of_not_le h1) h2
    rwa [Char.ofNat_toNat] at htwo
  · have hthree := decodeFrom_three r (Nat.lt_of_not_le h2) h3 (by omega)
    rwa [Char.ofNat_toNat] at hthree
  · have hfour := decodeFrom_four r (Nat.lt_of_not_le h3) (by omega)
    rwa [Char.ofNat_toNat] at hfour

theorem decodeFrom_flatMap (cs : List Char) :
    decodeFrom none (cs.flatMap String.utf8EncodeChar) = cs := by
  induction cs with
  | nil => rfl
  | cons c cs ih => rw [List.flatMap_cons, decodeFrom_utf8EncodeChar, ih]

theorem decodeFrom_encode (t : Text) : decodeFrom none (encode t) = t.chars :=
  decodeFrom_flatMap t.chars

theorem encode_ascii {bs : List UInt8} (h : ∀ b ∈ bs, b < 0x80) :
    encode (bs.map UInt8.toUInt16) = bs := by
  induction bs with
  | nil => rfl
  | cons b bs ih =>
    have hb : b.toNat < 0x80 := by simpa [UInt8.lt_iff_toNat_lt] using h b (by simp)
    have hu : b.toUInt16.toNat = b.toNat := by simp
    have hhalf : CodeUnit.isHalf b.toUInt16 = false := by
      rw [CodeUnit.isHalf_eq_false_iff, hu]
      omega
    have hn : (Char.ofNat b.toNat).val.toNat = b.toNat := Text.toNat_ofNat (by omega)
    have hencode : encode (bs.map UInt8.toUInt16) = bs := ih fun x hx => h x (by simp [hx])
    rw [List.map_cons, encode, Text.chars_cons_of_not_half hhalf, List.flatMap_cons, ← encode,
      hencode, hu, String.utf8EncodeChar, hn, if_pos (by omega), UInt8.ofNat_toNat,
      List.singleton_append]

theorem toNat_of_mem_utf8EncodeChar {c : Char} {b : UInt8} (hb : b < 0x80)
    (h : b ∈ String.utf8EncodeChar c) : c.toNat = b.toNat := by
  have hc := Text.char_range c
  have hv : c.val.toNat = c.toNat := rfl
  rw [UInt8.lt_iff_toNat_lt] at hb
  simp only [String.utf8EncodeChar, hv] at h
  split_ifs at h with h1 h2 h3
  · rw [List.mem_singleton.mp h]
    simp
    omega
  -- All bytes of a longer sequence are past ASCII.
  all_goals
    simp only [List.mem_cons, List.not_mem_nil, or_false] at h
    exfalso
  · rcases h with rfl | rfl <;> simp at hb <;> omega
  · rcases h with rfl | rfl | rfl <;> simp at hb <;> omega
  · rcases h with rfl | rfl | rfl | rfl <;> simp at hb <;> omega

theorem mem_of_mem_encode {t : Text} {b : UInt8} (hb : b < 0x80) (h : b ∈ encode t) :
    b.toUInt16 ∈ t := by
  obtain ⟨c, hc, hbc⟩ := List.mem_flatMap.mp h
  have hn := toNat_of_mem_utf8EncodeChar hb hbc
  have hmem := Text.mem_of_mem_chars (hn ▸ by simpa [UInt8.lt_iff_toNat_lt] using hb) hc
  rw [hn] at hmem
  simpa using hmem

end ZoneKeeper.Utf8
