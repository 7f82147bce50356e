import ZoneKeeper.Text

namespace ZoneKeeper

namespace CodeUnit

/-- U+FEFF and the separators of lines are blanks, but U+0085 is none. -/
def isBlank (u : CodeUnit) : Bool :=
  (0x09 ≤ u && u ≤ 0x0D) || u = 0x20 || u = 0xA0 || u = 0x1680 || (0x2000 ≤ u && u ≤ 0x200A) ||
    u = 0x2028 || u = 0x2029 || u = 0x202F || u = 0x205F || u = 0x3000 || u = 0xFEFF

/-- The controls of ASCII; those of Latin-1 are not among them. -/
def isControl (u : CodeUnit) : Bool := u ≤ 0x1F || u = 0x7F

end CodeUnit

namespace Text

def trimStart (t : Text) : Text := t.dropWhile CodeUnit.isBlank

def trimEnd (t : Text) : Text := (trimStart t.reverse).reverse

def trim (t : Text) : Text := t.trimStart.trimEnd

/-- Every longest run of units in the class becomes one space, written where the run ends. -/
def squeeze (p : CodeUnit → Bool) : Text → Text
  | [] => []
  | u :: r =>
    if p u then if r.head?.any p then squeeze p r else 0x20 :: squeeze p r
    else u :: squeeze p r

/-- Controls first, since a control such as U+0000 is no blank and has to become one. -/
def singleLine (t : Text) : Text :=
  trim (squeeze CodeUnit.isBlank (squeeze CodeUnit.isControl t))

end Text

end ZoneKeeper
