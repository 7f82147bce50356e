import Mathlib
import ZoneKeeper.Proofs.Text.Parts
import ZoneKeeper.Proofs.Text.Utf8
import ZoneKeeper.Url.Form
import ZoneKeeper.Url.Host

namespace ZoneKeeper

namespace Utf8

theorem encode_of_ascii {t : Text} (h : ∀ u ∈ t, u < 0x80) :
    encode t = t.map UInt16.toUInt8 := by
  have ht : (t.map UInt16.toUInt8).map UInt8.toUInt16 = t := by
    rw [List.map_map]
    conv_rhs => rw [← List.map_id t]
    apply List.map_congr_left
    intro u hu
    have hlt : u.toNat < 0x80 := by simpa [UInt16.lt_iff_toNat_lt] using h u hu
    rw [← UInt16.toNat_inj]
    simp
    omega
  conv_lhs => rw [← ht]
  apply encode_ascii
  intro b hb
  obtain ⟨u, hu, rfl⟩ := List.mem_map.mp hb
  have hlt : u.toNat < 0x80 := by simpa [UInt16.lt_iff_toNat_lt] using h u hu
  rw [UInt8.lt_iff_toNat_lt]
  simp
  omega

end Utf8

namespace Url

theorem unescape_cons {b : UInt8} (h : b ≠ 0x25) (r : List UInt8) :
    unescape (b :: r) = b :: unescape r := by
  rw [unescape]
  intro a c r' he
  exact absurd he h

theorem hexValue?_hexUpper {n : ℕ} (h : n < 16) : CodeUnit.hexValue? (hexUpper n) = some n := by
  interval_cases n <;> rfl

theorem hexUpper_toUInt8 {n : ℕ} (h : n < 16) : (hexUpper n).toUInt8.toUInt16 = hexUpper n := by
  interval_cases n <;> rfl

theorem unescape_percent (b : UInt8) (r : List UInt8) :
    unescape ((percent b).map UInt16.toUInt8 ++ r) = b :: unescape r := by
  have hb : b.toNat < 256 := b.toNat_lt
  simp only [percent, List.map_cons, List.map_nil, List.cons_append, List.nil_append]
  rw [show UInt16.toUInt8 0x25 = 0x25 from rfl, unescape, hexUpper_toUInt8 (by omega),
    hexUpper_toUInt8 (by omega), hexValue?_hexUpper (by omega), hexValue?_hexUpper (by omega)]
  simp only
  rw [show 16 * (b.toNat / 0x10) + b.toNat % 0x10 = b.toNat by omega]
  simp

theorem escape_eq_self {escaped : UInt8 → Bool} {t : Text}
    (h : ∀ u ∈ t, 0x20 ≤ u ∧ u ≤ 0x7E ∧ escaped u.toUInt8 = false) : escape escaped t = t := by
  have hascii : ∀ u ∈ t, u < 0x80 := by
    intro u hu
    obtain ⟨-, hle, -⟩ := h u hu
    rw [UInt16.le_iff_toNat_le] at hle
    rw [UInt16.lt_iff_toNat_lt]
    simp at hle ⊢
    omega
  rw [escape, Utf8.encode_of_ascii hascii, List.flatMap_map]
  conv_rhs => rw [← List.flatMap_singleton' t]
  rw [List.flatMap_def, List.flatMap_def]
  congr 1
  apply List.map_congr_left
  intro u hu
  obtain ⟨hge, hle, he⟩ := h u hu
  rw [UInt16.le_iff_toNat_le] at hge hle
  have hn : u.toUInt8.toNat = u.toNat := by simp at hle ⊢; omega
  have hlow : ¬ u.toUInt8 < 0x20 := by rw [UInt8.lt_iff_toNat_lt, hn]; simpa using hge
  have hhigh : ¬ 0x7E < u.toUInt8 := by rw [UInt8.lt_iff_toNat_lt, hn]; simpa using hle
  have hu16 : u.toUInt8.toUInt16 = u := by rw [← UInt16.toNat_inj]; simpa using hn
  simp [hlow, hhigh, he, hu16]

def queryOf (t : Text) : Text := ((Text.cut 0x3F (Text.cut 0x23 t).1).2).getD []

end Url

namespace Form
open Utf8

def plusToSpace (u : CodeUnit) : CodeUnit := if u = 0x2B then 0x20 else u

def decodeText (t : Text) : Text :=
  Text.ofChars (decodeFrom none (Url.unescape (Utf8.encode (t.map plusToSpace))))

def decodeEntry (t : Text) : Text × Text :=
  (decodeText (Text.cut 0x3D t).1, decodeText ((Text.cut 0x3D t).2.getD []))

/-- The entries that the text of a form spells, in order. -/
def decode (t : Text) : Entries := ((t.splitOn 0x26).filter (· ≠ [])).map decodeEntry

def piece (b : UInt8) : Text :=
  if b = 0x20 then [0x2B] else if isPlain b then [b.toUInt16] else Url.percent b

/-- The units that names and values are written with. -/
def isEncoded (u : CodeUnit) : Bool := u = 0x2B || u = 0x25 || (u < 0x80 && isPlain u.toUInt8)

theorem encodeText_eq (t : Text) : encodeText t = (Utf8.encode t).flatMap piece := rfl

theorem isEncoded_piece (b : UInt8) : ∀ u ∈ piece b, isEncoded u = true := by
  have h : ∀ c : UInt8, (piece c).all isEncoded = true := by decide +kernel
  exact List.all_eq_true.mp (h b)

theorem isEncoded_encodeText (t : Text) : ∀ u ∈ encodeText t, isEncoded u = true := by
  intro u hu
  obtain ⟨b, -, hb⟩ := List.mem_flatMap.mp hu
  exact isEncoded_piece b u hb

theorem unescape_piece (b : UInt8) (r : List UInt8) :
    Url.unescape (((piece b).map plusToSpace).map UInt16.toUInt8 ++ r) =
      b :: Url.unescape r := by
  have hplain : ∀ c : UInt8, isPlain c = true → c ≠ 0x25 ∧ c.toUInt16 ≠ 0x2B := by
    decide +kernel
  have hpercent : ∀ c : UInt8, (Url.percent c).map plusToSpace = Url.percent c := by
    decide +kernel
  unfold piece
  split_ifs with hspace hb
  · subst hspace
    exact Url.unescape_cons (by decide) r
  · obtain ⟨hne, hplus⟩ := hplain b hb
    simp only [List.map_cons, List.map_nil, plusToSpace, if_neg hplus, UInt8.toUInt8_toUInt16,
      List.singleton_append]
    exact Url.unescape_cons hne r
  · rw [hpercent]
    exact Url.unescape_percent b r

theorem unescape_flatMap (bs : List UInt8) :
    Url.unescape (((bs.flatMap piece).map plusToSpace).map UInt16.toUInt8) = bs := by
  induction bs with
  | nil => rfl
  | cons b bs ih =>
    rw [List.flatMap_cons, List.map_append, List.map_append, unescape_piece, ih]

theorem ascii_plusToSpace (t : Text) : ∀ u ∈ (encodeText t).map plusToSpace, u < 0x80 := by
  intro u hu
  obtain ⟨v, hv, rfl⟩ := List.mem_map.mp hu
  have he := isEncoded_encodeText t v hv
  simp only [isEncoded, Bool.or_eq_true, Bool.and_eq_true, decide_eq_true_eq] at he
  unfold plusToSpace
  split_ifs with hplus
  · decide
  · rcases he with (h | rfl) | h
    · exact absurd h hplus
    · decide
    · exact h.1

theorem decodeText_encodeText (t : Text) : decodeText (encodeText t) = t.repair := by
  rw [decodeText, encode_of_ascii (ascii_plusToSpace t), encodeText_eq, unescape_flatMap,
    decodeFrom_encode, Text.repair]

theorem not_mem_encodeText {mark : CodeUnit} (h : isEncoded mark = false) (t : Text) :
    mark ∉ encodeText t := by
  intro hm
  rw [isEncoded_encodeText t mark hm] at h
  exact Bool.noConfusion h

def entryText (e : Text × Text) : Text := encodeText e.1 ++ 0x3D :: encodeText e.2

theorem decodeEntry_entryText (e : Text × Text) :
    decodeEntry (entryText e) = (e.1.repair, e.2.repair) := by
  rw [decodeEntry, entryText, Text.cut_append (not_mem_encodeText (by decide) _),
    decodeText_encodeText, Option.getD_some, decodeText_encodeText]

theorem not_mem_entryText {mark : CodeUnit} (h : isEncoded mark = false) (hne : mark ≠ 0x3D)
    (e : Text × Text) : mark ∉ entryText e := by
  simp only [entryText, List.mem_append, List.mem_cons, not_or]
  exact ⟨not_mem_encodeText h _, hne, not_mem_encodeText h _⟩

/-- The text of a form falls apart into the texts of its entries. A form without entries has an
empty text, which would split into one empty piece. -/
theorem splitOn_encode {entries : Entries} (h : entries ≠ []) :
    (Form.encode entries).splitOn 0x26 = entries.map entryText := by
  have hmark : ∀ t ∈ entries.map entryText, (0x26 : CodeUnit) ∉ t := by
    intro t ht
    obtain ⟨e, -, rfl⟩ := List.mem_map.mp ht
    exact not_mem_entryText (by decide) (by decide) e
  have he : Form.encode entries = [0x26].intercalate (entries.map entryText) := rfl
  rw [he, List.splitOn_intercalate _ hmark (by simpa using h)]

/-- Reading undoes writing, but for halves of pairs that stand alone. -/
theorem decode_encode (entries : Entries) :
    decode (encode entries) = entries.map fun e => (e.1.repair, e.2.repair) := by
  have hfull : ∀ t ∈ entries.map entryText, decide (t ≠ []) = true := by
    intro t ht
    obtain ⟨e, -, rfl⟩ := List.mem_map.mp ht
    simp [entryText]
  by_cases hn : entries = []
  · subst hn
    rfl
  · rw [decode, splitOn_encode hn, List.filter_eq_self.mpr hfull, List.map_map]
    exact List.map_congr_left fun e _ => decodeEntry_entryText e

theorem mem_encode {entries : Entries} {u : CodeUnit} (h : u ∈ Form.encode entries) :
    isEncoded u = true ∨ u = 0x3D ∨ u = 0x26 := by
  rcases Text.mem_join h with hu | ⟨t, ht, hu⟩
  · exact Or.inr (Or.inr (List.mem_singleton.mp hu))
  · obtain ⟨e, -, rfl⟩ := List.mem_map.mp ht
    rcases List.mem_append.mp hu with hu | hu
    · exact Or.inl (isEncoded_encodeText _ u hu)
    · rcases List.mem_cons.mp hu with rfl | hu
      · exact Or.inr (Or.inl rfl)
      · exact Or.inl (isEncoded_encodeText _ u hu)

theorem passes_of_isEncoded {u : CodeUnit} (h : isEncoded u = true ∨ u = 0x3D ∨ u = 0x26) :
    0x20 ≤ u ∧ u ≤ 0x7E ∧ Url.escapedInSpecialQuery u.toUInt8 = false := by
  have hplain : ∀ b : UInt8, isPlain b = true →
      0x20 ≤ b.toNat ∧ b.toNat ≤ 0x7E ∧ Url.escapedInSpecialQuery b = false := by
    decide +kernel
  simp only [isEncoded, Bool.or_eq_true, Bool.and_eq_true, decide_eq_true_eq] at h
  rcases h with ((rfl | rfl) | ⟨hlt, hp⟩) | rfl | rfl
  · decide
  · decide
  · have hn : u.toUInt8.toNat = u.toNat := by
      rw [UInt16.lt_iff_toNat_lt] at hlt
      simp at hlt ⊢
      omega
    have hb := hplain _ hp
    rw [hn] at hb
    simp only [UInt16.le_iff_toNat_le]
    exact hb
  · decide
  · decide

/-- A form stands in a query as it is. -/
theorem escapeQuery_encode (scheme : Scheme) (entries : Entries) :
    Url.escapeQuery scheme (Form.encode entries) = Form.encode entries := by
  apply Url.escape_eq_self
  intro u hu
  obtain ⟨hge, hle, he⟩ := passes_of_isEncoded (mem_encode hu)
  refine ⟨hge, hle, ?_⟩
  split_ifs
  · exact he
  · simp only [Url.escapedInSpecialQuery, Bool.or_eq_false_iff] at he
    exact he.1

theorem not_mem_encode {mark : CodeUnit} (h : isEncoded mark = false) (heq : mark ≠ 0x3D)
    (hand : mark ≠ 0x26) (entries : Entries) : mark ∉ Form.encode entries := by
  intro hm
  rcases mem_encode hm with he | he | he
  · rw [h] at he
    exact Bool.noConfusion he
  · exact heq he
  · exact hand he

end Form

end ZoneKeeper
