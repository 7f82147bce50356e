import ZoneKeeper.Domain
import ZoneKeeper.Idna.Allowed
import ZoneKeeper.Idna.Composition
import ZoneKeeper.Idna.Direction
import ZoneKeeper.Idna.Joining
import ZoneKeeper.Idna.Mapping
import ZoneKeeper.Idna.Punycode

namespace ZoneKeeper.Idna

/-- What a label may spell: its code points are allowed and in composed form, and no mark comes
first. In a label with a joiner the joiner decides, in any other the direction does. -/
def isLabel (cs : List Nat) : Bool :=
  cs ≠ [] && cs.all isAllowed && composed cs = cs && !cs.head?.any isMark &&
    (joinerFits? [] cs).getD (runsOneWay cs)

/-- Only encoded labels are asked what they spell. Letters are in lower case here. -/
def fits (label : Text) : Bool :=
  if label.take 4 = Domain.encodedMark then (Punycode.decode (label.drop 4)).any isLabel else true

def labelToAscii? (label : List Nat) : Option Text :=
  if label.all (· < 0x80) then
    let t := label.map Nat.toUInt16
    if fits t then some t else none
  else if label.take 4 = Domain.encodedMark.map UInt16.toNat || !isLabel label then none
  else (Punycode.encode? label).map fun t => Domain.encodedMark ++ t

/-- The form in which names are compared. -/
def normal (name : List Nat) : List Nat :=
  if name.all (· < 0x80) then name.map lower else composed (name.flatMap mapped)

def toAscii? (name : List Nat) : Option Text :=
  (((normal name).splitOn 0x2E).mapM labelToAscii?).map (Text.join [0x2E])

end ZoneKeeper.Idna
