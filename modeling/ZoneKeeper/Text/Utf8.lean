import ZoneKeeper.Text

namespace ZoneKeeper.Utf8

/-- A half that stands alone is written as U+FFFD. -/
def encode (t : Text) : List UInt8 := t.chars.flatMap String.utf8EncodeChar

/-- A sequence begun and not ended: the bytes still to come, the bits so far, and the range of the
next byte, which shuts out overlong forms, surrogates and values past U+10FFFF. -/
structure Unfinished where
  more : Nat
  bits : Nat
  low : UInt8
  high : UInt8

def start (b : UInt8) : List Char × Option Unfinished :=
  if b ≤ 0x7F then ([Char.ofNat b.toNat], none)
  else if 0xC2 ≤ b && b ≤ 0xDF then ([], some ⟨1, b.toNat % 0x20, 0x80, 0xBF⟩)
  else if 0xE0 ≤ b && b ≤ 0xEF then
    ([], some ⟨2, b.toNat % 0x10, if b = 0xE0 then 0xA0 else 0x80, if b = 0xED then 0x9F else 0xBF⟩)
  else if 0xF0 ≤ b && b ≤ 0xF4 then
    ([], some ⟨3, b.toNat % 0x08, if b = 0xF0 then 0x90 else 0x80, if b = 0xF4 then 0x8F else 0xBF⟩)
  else (['\uFFFD'], none)

def decodeFrom : Option Unfinished → List UInt8 → List Char
  | none, [] => []
  | some _, [] => ['\uFFFD']
  | none, b :: r => (start b).1 ++ decodeFrom (start b).2 r
  | some s, b :: r =>
    if s.low ≤ b && b ≤ s.high then
      let bits := s.bits * 0x40 + b.toNat % 0x40
      if s.more ≤ 1 then Char.ofNat bits :: decodeFrom none r
      else decodeFrom (some ⟨s.more - 1, bits, 0x80, 0xBF⟩) r
    else '\uFFFD' :: (start b).1 ++ decodeFrom (start b).2 r

def dropMark : List Char → List Char
  | '\uFEFF' :: r => r
  | cs => cs

/-- One byte order mark in front is no part of the text. -/
def decode (bytes : List UInt8) : Text := Text.ofChars (dropMark (decodeFrom none bytes))

end ZoneKeeper.Utf8
