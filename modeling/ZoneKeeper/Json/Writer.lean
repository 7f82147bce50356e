import ZoneKeeper.Json

namespace ZoneKeeper.Json

def hexDigit (n : Nat) : CodeUnit := if n < 10 then 0x30 + n.toUInt16 else 0x57 + n.toUInt16

def escapeByNumber (u : CodeUnit) : Text :=
  let n := u.toNat
  [0x5C, 0x75, hexDigit (n / 0x1000), hexDigit (n / 0x100 % 0x10), hexDigit (n / 0x10 % 0x10),
    hexDigit (n % 0x10)]

/-- A unit outside any pair of halves. -/
def writeUnit (u : CodeUnit) : Text :=
  if u = 0x22 then [0x5C, 0x22]
  else if u = 0x5C then [0x5C, 0x5C]
  else if u = 0x08 then [0x5C, 0x62]
  else if u = 0x09 then [0x5C, 0x74]
  else if u = 0x0A then [0x5C, 0x6E]
  else if u = 0x0C then [0x5C, 0x66]
  else if u = 0x0D then [0x5C, 0x72]
  else if u < 0x20 || u.isHighHalf || u.isLowHalf then escapeByNumber u
  else [u]

def writeUnits : Text → Text
  | [] => []
  | [u] => writeUnit u
  | u :: v :: r =>
    if u.isHighHalf && v.isLowHalf then u :: v :: writeUnits r
    else writeUnit u ++ writeUnits (v :: r)

def writeString (s : Text) : Text := 0x22 :: writeUnits s ++ [0x22]

mutual

/-- The compact text of a value. As lossless-json does, it writes a number by its source text. -/
def write : Json → Text
  | null => "null"
  | bool true => "true"
  | bool false => "false"
  | number source => source
  | string s => writeString s
  | array items => 0x5B :: writeItems items ++ [0x5D]
  | object members => 0x7B :: writeMembers members ++ [0x7D]

def writeItems : List Json → Text
  | [] => []
  | [v] => write v
  | v :: w :: rest => write v ++ 0x2C :: writeItems (w :: rest)

def writeMembers : List (Text × Json) → Text
  | [] => []
  | [(k, v)] => writeString k ++ 0x3A :: write v
  | (k, v) :: m :: rest => writeString k ++ 0x3A :: write v ++ 0x2C :: writeMembers (m :: rest)

end

end ZoneKeeper.Json
