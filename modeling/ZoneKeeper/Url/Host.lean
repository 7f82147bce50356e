import ZoneKeeper.Idna.Label
import ZoneKeeper.Ipv6
import ZoneKeeper.Url

namespace ZoneKeeper.Url

/-- The bytes of a text in which escapes stand for bytes; a lone `%` is itself. -/
def unescape : List UInt8 → List UInt8
  | 0x25 :: a :: b :: r =>
    match CodeUnit.hexValue? a.toUInt16, CodeUnit.hexValue? b.toUInt16 with
    | some x, some y => (16 * x + y).toUInt8 :: unescape r
    | _, _ => 0x25 :: unescape (a :: b :: r)
  | b :: r => b :: unescape r
  | [] => []

/-- A part of an address in octal if a zero leads, and in hexadecimal after `0x`. -/
def addressPart? (t : Text) : Option Nat :=
  match t with
  | [] => none
  | 0x30 :: u :: r => if u.toLower = 0x78 then Text.inBase? 16 r else Text.inBase? 8 (u :: r)
  | t => Text.inBase? 10 t

def dropRoot (parts : List Text) : List Text :=
  if parts.length ≥ 2 ∧ parts.getLast? = some [] then parts.dropLast else parts

def endsInNumber (parts : List Text) : Bool :=
  (dropRoot parts).getLast?.any fun t =>
    (t ≠ [] && t.all CodeUnit.isDigit) || (addressPart? t).isSome

/-- At most four parts; the last one fills all octets that the others leave. -/
def address? (parts : List Text) : Option Ipv4 := do
  let numbers ← (dropRoot parts).mapM addressPart?
  let last ← numbers.getLast?
  let front := numbers.dropLast
  if front.length ≤ 3 && front.all (· ≤ 255) && last < Nat.pow 256 (4 - front.length) then
    let n := (front.mapIdx fun i x => x * Nat.pow 256 (3 - i)).foldl (· + ·) last
    return ⟨(n / 0x1000000).toUInt8, (n / 0x10000 % 0x100).toUInt8, (n / 0x100 % 0x100).toUInt8,
      (n % 0x100).toUInt8⟩
  else none

/-- What would end a host or be lost in it. -/
def isForbiddenInHost (u : CodeUnit) : Bool :=
  u = 0x00 || u = 0x09 || u = 0x0A || u = 0x0D || u = 0x20 || u = 0x23 || u = 0x2F || u = 0x3A ||
    u = 0x3C || u = 0x3E || u = 0x3F || u = 0x40 || (0x5B ≤ u && u ≤ 0x5E) || u = 0x7C

/-- Names hold neither controls nor a percent sign. -/
def isForbiddenInName (u : CodeUnit) : Bool :=
  isForbiddenInHost u || u < 0x20 || u = 0x7F || u = 0x25

def characters? (bytes : List UInt8) : Option (List Char) :=
  let cs := Utf8.decodeFrom none bytes
  if cs.flatMap String.utf8EncodeChar = bytes then some cs else none

def readName? (t : Text) : Option Text := do
  let cs ← characters? (unescape (Utf8.encode t))
  let name ← Idna.toAscii? (cs.map Char.toNat)
  if name = [] || name.any isForbiddenInName then none
  else
    let parts := name.splitOn 0x2E
    if endsInNumber parts then (address? parts).map Ipv4.toText
    else some name

def readBracketed? (t : Text) : Option Text :=
  if t.getLast? = some 0x5D then
    (Ipv6.ofText? (t.drop 1).dropLast).map fun ip => 0x5B :: ip.toText ++ [0x5D]
  else none

/-- A host whose last part is a number has to be an IPv4 address; every other one is a name, in
lower case and with its labels in ASCII. Any text will do for a scheme that knows no hosts. -/
def readHost? (scheme : Scheme) (t : Text) : Option Text :=
  if t.head? = some 0x5B then readBracketed? t
  else if scheme.isSpecial then readName? t
  else if t.any isForbiddenInHost then none
  else some (escape escapedInPlain t)

end ZoneKeeper.Url
