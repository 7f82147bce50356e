import ZoneKeeper.Double
import ZoneKeeper.Text

namespace ZoneKeeper.Double

/-- The point of the grid `10 ^ j` nearest to `m * 2 ^ e` among those that read back as it. All
quantities are multiples of a quarter of the last place, over one denominator. -/
def gridPoint? (m : Nat) (e j : Int) : Option Nat :=
  let scale := Nat.pow 2 (e - 2).toNat * Nat.pow 10 (-j).toNat
  let step := Nat.pow 2 (2 - e).toNat * Nat.pow 10 j.toNat
  let value := 4 * m * scale
  let low := (if m = Nat.pow 2 52 ∧ -1074 < e then 4 * m - 1 else 4 * m - 2) * scale
  let high := (4 * m + 2) * scale
  let inside (x : Nat) : Bool :=
    if m % 2 = 0 then low ≤ x * step && x * step ≤ high else low < x * step && x * step < high
  let below := value / step
  if inside below && inside (below + 1) then
    some (roundQuotient value step)
  else if inside below then some below
  else if inside (below + 1) then some (below + 1)
  else none

/-- From above the greatest double down to the last place of the least one. -/
def grids : List Int := (List.range 634).map fun (i : Nat) => (309 : Int) - i

/-- Coefficient and power of ten of the shortest decimal for `m * 2 ^ e`: it has the fewest digits
of those that read back as it, and of several it is the nearest. -/
def shortest (m : Nat) (e : Int) : Nat × Int :=
  (grids.findSome? fun j => (gridPoint? m e j).map fun c => (c, j)).getD (0, 0)

/-- Digits with the point behind the first `point` of them. Numbers from 10^-6 up to 10^21 are
written out, the others with a power of ten. -/
def layout (digits : Text) (point : Int) : Text :=
  let count : Int := digits.length
  if count ≤ point ∧ point ≤ 21 then digits ++ List.replicate (point - count).toNat 0x30
  else if 0 < point ∧ point ≤ 21 then digits.take point.toNat ++ 0x2E :: digits.drop point.toNat
  else if -6 < point ∧ point ≤ 0 then 0x30 :: 0x2E :: List.replicate (-point).toNat 0x30 ++ digits
  else
    let fraction : Text := if digits.length ≤ 1 then [] else 0x2E :: digits.drop 1
    let sign : CodeUnit := if point < 1 then 0x2D else 0x2B
    digits.take 1 ++ fraction ++ 0x65 :: sign :: Text.ofNat (point - 1).natAbs

def signed (negative : Bool) (t : Text) : Text := if negative then 0x2D :: t else t

def toText : Double → Text
  | nan => "NaN"
  | infinite negative => signed negative "Infinity"
  | finite negative m e _ =>
    if m = 0 then "0"
    else
      let (coefficient, j) := shortest m e
      let digits := Text.ofNat coefficient
      signed negative (layout digits (digits.length + j))

end ZoneKeeper.Double
