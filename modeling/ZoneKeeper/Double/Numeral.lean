import ZoneKeeper.Double
import ZoneKeeper.Text.SingleLine

namespace ZoneKeeper.Double

def splitSign : Text → Bool × Text
  | 0x2B :: r => (false, r)
  | 0x2D :: r => (true, r)
  | t => (false, t)

def exponent? : Text → Option Int
  | [] => some 0
  | u :: r =>
    let (negative, digits) := splitSign r
    if (u = 0x65 || u = 0x45) && digits ≠ [] && digits.all CodeUnit.isDigit then
      some (if negative then -(Text.digitsValue digits : Int) else Text.digitsValue digits)
    else none

/-- A sign, digits with at most one point among or beside them, and a power of ten. The point moves
the exponent, so one whole coefficient holds all digits. -/
def ofDecimal? (t : Text) : Option Double :=
  let (negative, t) := splitSign t
  let whole := t.takeWhile CodeUnit.isDigit
  let (fraction, t) : Text × Text :=
    match t.dropWhile CodeUnit.isDigit with
    | 0x2E :: r => (r.takeWhile CodeUnit.isDigit, r.dropWhile CodeUnit.isDigit)
    | r => ([], r)
  if whole ++ fraction = [] then none
  else (exponent? t).map fun e =>
    ofScientific negative (Text.digitsValue (whole ++ fraction)) (e - fraction.length)

def ofDigits? (base : Nat) (t : Text) : Option Double :=
  if t = [] then none else (t.inBase? base).map ofNat

def ofRadix? : Text → Option Double
  | 0x30 :: u :: r =>
    if u.toLower = 0x78 then ofDigits? 16 r
    else if u.toLower = 0x6F then ofDigits? 8 r
    else if u.toLower = 0x62 then ofDigits? 2 r
    else none
  | _ => none

def ofInfinity? (t : Text) : Option Double :=
  let (negative, name) := splitSign t
  if name = Text.ofString "Infinity" then some (infinite negative) else none

/-- Blanks around a numeral do not count, and nothing but blanks is zero; any other text that is no
numeral gives NaN. -/
def ofText (t : Text) : Double :=
  let t := t.trim
  if t = [] then zero false
  else (ofRadix? t <|> ofInfinity? t <|> ofDecimal? t).getD nan

end ZoneKeeper.Double
