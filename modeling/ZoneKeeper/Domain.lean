import ZoneKeeper.Text

namespace ZoneKeeper.Domain

def isNameUnit (u : CodeUnit) : Bool := u.isLetter || u.isDigit || u = 0x2D || u = 0x5F

/-- A hyphen may stand inside a label only. -/
def isLabel (l : Text) : Bool :=
  1 ≤ l.length && l.length ≤ 63 && l.all isNameUnit && l.head? ≠ some 0x2D &&
    l.getLast? ≠ some 0x2D

/-- The mark of a label that spells letters outside ASCII. -/
def encodedMark : Text := "xn--"

/-- The last label is alphabetic or an encoded one, and has two letters at least. -/
def isTopLabel (l : Text) : Bool :=
  (2 ≤ l.length && l.length ≤ 63 && l.all CodeUnit.isLetter) ||
    (5 ≤ l.length && l.length ≤ 63 && Text.toLower (l.take 4) = encodedMark &&
      (l.drop 4).all fun u => u.isLetter || u.isDigit || u = 0x2D)

def labels (name : Text) : List Text := name.splitOn 0x2E

def maxLength : Nat := 253

def isValid (name : Text) : Bool :=
  name.length ≤ maxLength &&
    match (labels name).reverse with
    | top :: inner => isTopLabel top && inner ≠ [] && inner.all isLabel
    | [] => false

/-- The owner `@` is the domain itself, and `*` stands for any name below it. -/
def ofOwner (owner domain : Text) : Text :=
  if owner = Text.ofString "@" then domain
  else if owner = Text.ofString "*" then "any." ++ domain
  else owner ++ "." ++ domain

end ZoneKeeper.Domain
