import Mathlib
import ZoneKeeper.Proofs.Text.Utf8
import ZoneKeeper.Settings

namespace ZoneKeeper

namespace Text

def withoutMark : Text → Text
  | 0xFEFF :: r => r
  | t => t

theorem withoutMark_of_head? {t : Text} (h : t.head? ≠ some 0xFEFF) : t.withoutMark = t := by
  unfold withoutMark
  split
  · exact absurd rfl h
  · rfl

theorem head?_ofChars_cons {c : Char} (h : c ≠ '\uFEFF') (cs : List Char) :
    (ofChars (c :: cs)).head? ≠ some 0xFEFF := by
  rw [ofChars_cons]
  by_cases hc : c.toNat < 0x10000
  · rw [ofChar_of_lt hc, List.singleton_append, List.head?_cons]
    intro hu
    have hn : c.toNat = 0xFEFF := by
      have hn := congrArg UInt16.toNat (Option.some.inj hu)
      simp at hn
      omega
    exact h (by rw [← Char.ofNat_toNat c, hn])
  -- The first unit of a pair is a half, which lies below the mark.
  · have hrange := char_range c
    rw [ofChar, if_neg hc, List.cons_append, List.head?_cons]
    intro hu
    have hn := congrArg UInt16.toNat (Option.some.inj hu)
    simp at hn
    omega

end Text

namespace Utf8

theorem toList_toUTF8 (s : String) :
    s.toUTF8.data.toList = s.toList.flatMap String.utf8EncodeChar := by
  conv_lhs => rw [← String.ofList_toList (s := s)]
  rw [String.toUTF8_eq_toByteArray, String.toByteArray_ofList, List.utf8Encode,
    List.toList_data_toByteArray]

/-- A mark is dropped from the characters as from the text that they spell. -/
theorem ofChars_dropMark (cs : List Char) :
    Text.ofChars (dropMark cs) = (Text.ofChars cs).withoutMark := by
  unfold dropMark
  split
  · rfl
  · next hmark =>
    cases cs with
    | nil => rfl
    | cons c cs =>
      have hc : c ≠ '\uFEFF' := fun hc => hmark cs (by rw [hc])
      exact (Text.withoutMark_of_head? (Text.head?_ofChars_cons hc cs)).symm

/-- Reading the bytes of a string gives back its text. -/
theorem decode_toUTF8 (s : String) :
    decode s.toUTF8.data.toList = (Text.ofString s).withoutMark := by
  rw [decode, toList_toUTF8, decodeFrom_flatMap, ofChars_dropMark, Text.ofString]

end Utf8

namespace Settings

/-- The bytes of a string give the same settings, or are rejected for the same reason, as the string
itself, of which a byte order mark in front counts for nothing. -/
theorem ofBlob_bytes_eq_text (s : String) (domain owner : Text) :
    ofBlob (.bytes s.toUTF8.data.toList) domain owner =
      ofBlob (.text (Text.ofString s).withoutMark) domain owner ∧
    (s.toList.head? ≠ some '\uFEFF' →
      ofBlob (.bytes s.toUTF8.data.toList) domain owner =
        ofBlob (.text (Text.ofString s)) domain owner) := by
  have hbytes : ofBlob (.bytes s.toUTF8.data.toList) domain owner =
      ofBlob (.text (Text.ofString s).withoutMark) domain owner := by
    show Except.bind (Blob.json?.parse (Utf8.decode s.toUTF8.data.toList)) _ =
      Except.bind (Blob.json?.parse (Text.ofString s).withoutMark) _
    rw [Utf8.decode_toUTF8]
  refine ⟨hbytes, ?_⟩
  intro hhead
  have hmark : (Text.ofString s).withoutMark = Text.ofString s := by
    show (Text.ofChars s.toList).withoutMark = Text.ofChars s.toList
    cases hs : s.toList with
    | nil => rfl
    | cons c cs =>
      apply Text.withoutMark_of_head?
      apply Text.head?_ofChars_cons
      rintro rfl
      exact hhead (by rw [hs, List.head?_cons])
  rw [hbytes, hmark]

/-- A password with characters of two, three and four bytes is the same from bytes as from text. -/
theorem ofBlob_bytes_eq_text_accents :
    let s := "\x7b\"login\": \"me\", \"password\": \"clé€🔑\", \"domain\": \"example.com\"\x7d"
    s.toList.head? ≠ some '\uFEFF' ∧
      ofBlob (.bytes s.toUTF8.data.toList) "example.com" "@" =
        ofBlob (.text (Text.ofString s)) "example.com" "@" ∧
      (ofBlob (.text (Text.ofString s)) "example.com" "@").toOption.map (·.password) =
        some (Text.ofString "clé€🔑") := by
  intro s
  have hhead : s.toList.head? ≠ some '\uFEFF' := by decide +kernel
  exact ⟨hhead, (ofBlob_bytes_eq_text s "example.com" "@").2 hhead, by decide +kernel⟩

end Settings

end ZoneKeeper
