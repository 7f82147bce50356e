namespace ZoneKeeper

/-- Significands have 53 bits, or fewer where the exponent is the least there is. -/
structure Double.IsScaled (m : Nat) (e : Int) : Prop where
  lt : m < Nat.pow 2 53
  le_exponent : -1074 ≤ e
  full : Nat.pow 2 52 ≤ m ∨ e = -1074

/-- So each magnitude is written in one way. -/
structure Double.IsNormal (m : Nat) (e : Int) : Prop extends Double.IsScaled m e where
  exponent_le : e ≤ 971

instance (m : Nat) (e : Int) : Decidable (Double.IsNormal m e) :=
  decidable_of_iff (m < Nat.pow 2 53 ∧ -1074 ≤ e ∧ (Nat.pow 2 52 ≤ m ∨ e = -1074) ∧ e ≤ 971)
    ⟨fun h => ⟨⟨h.1, h.2.1, h.2.2.1⟩, h.2.2.2⟩,
      fun h => ⟨h.lt, h.le_exponent, h.full, h.exponent_le⟩⟩

/-- A finite double is its significand times a power of two, with its sign. -/
inductive Double
  | nan
  | infinite (negative : Bool)
  | finite (negative : Bool) (significand : Nat) (exponent : Int)
    (normal : Double.IsNormal significand exponent)
deriving DecidableEq

namespace Double

def zero (negative : Bool) : Double := finite negative 0 (-1074) (by decide)

def ofMagnitude (negative : Bool) (m : Nat) (e : Int) : Double :=
  if h : IsNormal m e then finite negative m e h else infinite negative

/-- The nearest whole number to a quotient, a half going to the even neighbour. -/
def roundQuotient (num den : Nat) : Nat :=
  let q := num / den
  let r := num % den
  if 2 * r < den then q else if den < 2 * r then q + 1 else q + q % 2

/-- The greatest power of two that is at most a positive quotient. The logarithms of its two terms
are short of it by one at most. -/
def quotientLog (num den : Nat) : Int :=
  let guess : Int := (num.log2 : Int) - den.log2
  if den * Nat.pow 2 guess.toNat ≤ num * Nat.pow 2 (-guess).toNat then guess else guess - 1

def ofQuotient (negative : Bool) (num den : Nat) : Double :=
  if num = 0 then zero negative
  else
    let e := max (quotientLog num den - 52) (-1074)
    let m := roundQuotient (num * Nat.pow 2 (-e).toNat) (den * Nat.pow 2 e.toNat)
    let (m, e) := if m = Nat.pow 2 53 then (Nat.pow 2 52, e + 1) else (m, e)
    ofMagnitude negative m e

def ofNat (n : Nat) : Double := ofQuotient false n 1

/-- The double nearest to `coefficient * 10 ^ exponent`. A magnitude past the range of doubles is
told by the count of digits, so that no power of ten is larger than the answer needs. -/
def ofScientific (negative : Bool) (coefficient : Nat) (exponent : Int) : Double :=
  let magnitude := exponent + (Nat.toDigits 10 coefficient).length
  if coefficient = 0 ∨ magnitude < -330 then zero negative
  else if 310 < magnitude then infinite negative
  else ofQuotient negative (coefficient * Nat.pow 10 exponent.toNat) (Nat.pow 10 (-exponent).toNat)

def isWhole : Double → Bool
  | finite _ m e _ => m % Nat.pow 2 (-e).toNat = 0
  | _ => false

end Double

end ZoneKeeper
