import ZoneKeeper.Json

namespace ZoneKeeper.Json

def isGap (u : CodeUnit) : Bool := u = 0x20 || u = 0x09 || u = 0x0A || u = 0x0D

def skipGaps (t : Text) : Text := t.dropWhile isGap

def unescape? (u : CodeUnit) : Option CodeUnit :=
  if u = 0x22 || u = 0x5C || u = 0x2F then some u
  else if u = 0x62 then some 0x08
  else if u = 0x66 then some 0x0C
  else if u = 0x6E then some 0x0A
  else if u = 0x72 then some 0x0D
  else if u = 0x74 then some 0x09
  else none

def ofHex? (a b c d : CodeUnit) : Option CodeUnit := do
  let a ← a.hexValue?
  let b ← b.hexValue?
  let c ← c.hexValue?
  let d ← d.hexValue?
  return (a * 0x1000 + b * 0x100 + c * 0x10 + d).toUInt16

-- 0x22 is the quote, 0x5C the backslash, and 0x75 the letter in front of four hexadecimal digits.
def readUnits : Text → Option (Text × Text)
  | 0x22 :: r => some ([], r)
  | 0x5C :: 0x75 :: a :: b :: c :: d :: r => do
    let u ← ofHex? a b c d
    let (s, rest) ← readUnits r
    return (u :: s, rest)
  | 0x5C :: e :: r => do
    let u ← unescape? e
    let (s, rest) ← readUnits r
    return (u :: s, rest)
  | u :: r =>
    if u < 0x20 || u = 0x5C then none
    else do
      let (s, rest) ← readUnits r
      return (u :: s, rest)
  | [] => none

def spanDigits (t : Text) : Text × Text :=
  (t.takeWhile CodeUnit.isDigit, t.dropWhile CodeUnit.isDigit)

def readDigits (t : Text) : Option (Text × Text) :=
  if t.head?.any CodeUnit.isDigit then some (spanDigits t) else none

def readMinus : Text → Text × Text
  | 0x2D :: r => ([0x2D], r)
  | t => ([], t)

def readWhole : Text → Option (Text × Text)
  | 0x30 :: r => some ([0x30], r)
  | t => readDigits t

def readFraction : Text → Option (Text × Text)
  | 0x2E :: r => (readDigits r).map fun (digits, rest) => (0x2E :: digits, rest)
  | t => some ([], t)

def readExponent : Text → Option (Text × Text)
  | u :: r =>
    if u = 0x65 || u = 0x45 then
      match r with
      | s :: r' =>
        if s = 0x2B || s = 0x2D then (readDigits r').map fun (ds, rest) => (u :: s :: ds, rest)
        else (readDigits r).map fun (ds, rest) => (u :: ds, rest)
      | [] => none
    else some ([], u :: r)
  | [] => some ([], [])

def readNumber (t : Text) : Option (Text × Text) := do
  let (minus, t) := readMinus t
  let (whole, t) ← readWhole t
  let (fraction, t) ← readFraction t
  let (exponent, t) ← readExponent t
  return (minus ++ whole ++ fraction ++ exponent, t)

mutual

/-- Each call takes one unit of fuel; a value needs at most two for each unit of its text. -/
def readValue (fits : Json → Json → Bool) : Nat → Text → Option (Json × Text)
  | 0, _ => none
  | n + 1, t =>
    match skipGaps t with
    | 0x22 :: r => do
      let (s, r) ← readUnits r
      return (string s, r)
    | 0x5B :: r =>
      match skipGaps r with
      | 0x5D :: r => some (array [], r)
      | r => do
        let (items, r) ← readItems fits n r
        return (array items, r)
    | 0x7B :: r =>
      match skipGaps r with
      | 0x7D :: r => some (object [], r)
      | r => do
        let (members, r) ← readMembers fits n [] r
        return (object members, r)
    | 0x6E :: 0x75 :: 0x6C :: 0x6C :: r => some (null, r)
    | 0x74 :: 0x72 :: 0x75 :: 0x65 :: r => some (bool true, r)
    | 0x66 :: 0x61 :: 0x6C :: 0x73 :: 0x65 :: r => some (bool false, r)
    | t => do
      let (source, r) ← readNumber t
      return (number source, r)

def readItems (fits : Json → Json → Bool) : Nat → Text → Option (List Json × Text)
  | 0, _ => none
  | n + 1, t => do
    let (v, r) ← readValue fits n t
    match skipGaps r with
    | 0x2C :: r => do
      let (vs, r) ← readItems fits n r
      return (v :: vs, r)
    | 0x5D :: r => return ([v], r)
    | _ => none

/-- Goes on from the members that were read before. -/
def readMembers (fits : Json → Json → Bool) : Nat → Members → Text → Option (Members × Text)
  | 0, _, _ => none
  | n + 1, members, t =>
    match skipGaps t with
    | 0x22 :: r => do
      let (key, r) ← readUnits r
      match skipGaps r with
      | 0x3A :: r => do
        let (v, r) ← readValue fits n r
        if (members.get? key).all fun old => fits old v then
          match skipGaps r with
          | 0x2C :: r => readMembers fits n (members.insert key v) r
          | 0x7D :: r => return (members.insert key v, r)
          | _ => none
        else none
      | _ => none
    | _ => none

end

/-- Why a text was not read: it is no JSON, or its value has faults. -/
inductive Rejection (Fault : Type)
  | noJson
  | faults (found : List Fault)

/-- The value that the whole text spells, in strict JSON. What a repeated key may do is up to
`fits`: the new value takes the place of an old one that it fits, and any other is a fault. To
lossless-json values fit that agree, and a member under `__proto__` is one like any other. -/
def read? (fits : Json → Json → Bool) (t : Text) : Option Json := do
  let (v, rest) ← readValue fits (2 * (t.length + 1)) t
  if skipGaps rest = [] then return v else none

end ZoneKeeper.Json
