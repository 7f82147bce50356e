namespace ZoneKeeper

abbrev CodeUnit := UInt16

namespace CodeUnit

def isDigit (u : CodeUnit) : Bool := 0x30 ≤ u && u ≤ 0x39

def isUpper (u : CodeUnit) : Bool := 0x41 ≤ u && u ≤ 0x5A

def isLower (u : CodeUnit) : Bool := 0x61 ≤ u && u ≤ 0x7A

def isLetter (u : CodeUnit) : Bool := u.isUpper || u.isLower

/-- Only the ASCII letters have two cases here. -/
def toLower (u : CodeUnit) : CodeUnit := if u.isUpper then u + 0x20 else u

def isHighHalf (u : CodeUnit) : Bool := 0xD800 ≤ u && u ≤ 0xDBFF

def isLowHalf (u : CodeUnit) : Bool := 0xDC00 ≤ u && u ≤ 0xDFFF

def hexValue? (u : CodeUnit) : Option Nat :=
  if u.isDigit then some (u.toNat - 0x30)
  else if 0x41 ≤ u && u ≤ 0x46 then some (u.toNat - 0x41 + 10)
  else if 0x61 ≤ u && u ≤ 0x66 then some (u.toNat - 0x61 + 10)
  else none

end CodeUnit

/-- Half of a surrogate pair may stand alone in a text, so it need not spell characters. -/
abbrev Text := List CodeUnit

namespace Text

/-- Characters above U+FFFF take two units. -/
def ofChar (c : Char) : Text :=
  let n := c.toNat
  if n < 0x10000 then [n.toUInt16]
  else [(0xD800 + (n - 0x10000) / 0x400).toUInt16, (0xDC00 + (n - 0x10000) % 0x400).toUInt16]

def ofChars (cs : List Char) : Text := cs.flatMap ofChar

def ofString (s : String) : Text := ofChars s.toList

instance : Coe String Text := ⟨ofString⟩

def ofNat (n : Nat) : Text := ofChars (Nat.toDigits 10 n)

def toLower (t : Text) : Text := t.map CodeUnit.toLower

def digitsValue (t : Text) : Nat := t.foldl (fun n u => 10 * n + (u.toNat - 0x30)) 0

/-- The number that digits denote in a base; no digits denote zero. -/
def inBase? (base : Nat) (t : Text) : Option Nat :=
  t.foldlM (fun n u => u.hexValue?.bind fun d => if d < base then some (base * n + d) else none) 0

def pairChar (high low : CodeUnit) : Char :=
  Char.ofNat (0x10000 + (high.toNat - 0xD800) * 0x400 + (low.toNat - 0xDC00))

/-- The character of a unit outside any pair: a half that stands alone becomes U+FFFD. -/
def unitChar (u : CodeUnit) : Char :=
  if u.isHighHalf || u.isLowHalf then '\uFFFD' else Char.ofNat u.toNat

def chars : Text → List Char
  | [] => []
  | [u] => [unitChar u]
  | u :: v :: r =>
    if u.isHighHalf && v.isLowHalf then pairChar u v :: chars r else unitChar u :: chars (v :: r)

/-- The text of its characters: a half that stands alone gives way to U+FFFD. -/
def repair (t : Text) : Text := ofChars t.chars

/-- The order by code units, a beginning coming before its continuations. It is not the order of
the characters, since halves of pairs lie below U+E000. -/
def le : Text → Text → Bool
  | [], _ => true
  | _ :: _, [] => false
  | u :: s, v :: t => u < v || (u = v && le s t)

/-- The text up to the first `mark`, and what follows the mark if there is one. -/
def cut (mark : CodeUnit) (t : Text) : Text × Option Text :=
  match t.dropWhile (· ≠ mark) with
  | [] => (t, none)
  | _ :: rest => (t.takeWhile (· ≠ mark), some rest)

/-- The text after the last `mark`, and what comes before the mark if there is one. -/
def cutLast (mark : CodeUnit) (t : Text) : Option Text × Text :=
  match cut mark t.reverse with
  | (rest, none) => (none, rest.reverse)
  | (rest, some before) => (some before.reverse, rest.reverse)

def join (sep : Text) (items : List Text) : Text := sep.intercalate items

end Text

end ZoneKeeper
