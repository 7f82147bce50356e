namespace ZoneKeeper.Idna

inductive Joining
  | left
  | right
  | both
deriving DecidableEq

set_option maxRecDepth 4000 in
/-- The sides on which a letter joins. Ranges may run over code points that no name holds. -/
def joiningRanges : List (Nat × Nat × Joining) := [
  (0x620, 0x620, .both), (0x622, 0x625, .right), (0x626, 0x626, .both), (0x627, 0x627, .right),
  (0x628, 0x628, .both), (0x629, 0x629, .right), (0x62A, 0x62E, .both), (0x62F, 0x632, .right),
  (0x633, 0x63F, .both), (0x641, 0x647, .both), (0x648, 0x648, .right), (0x649, 0x64A, .both),
  (0x66E, 0x66F, .both), (0x671, 0x673, .right), (0x679, 0x687, .both), (0x688, 0x699, .right),
  (0x69A, 0x6BF, .both), (0x6C0, 0x6C0, .right), (0x6C1, 0x6C2, .both), (0x6C3, 0x6CB, .right),
  (0x6CC, 0x6CC, .both), (0x6CD, 0x6CD, .right), (0x6CE, 0x6CE, .both), (0x6CF, 0x6CF, .right),
  (0x6D0, 0x6D1, .both), (0x6D2, 0x6D3, .right), (0x6D5, 0x6D5, .right), (0x6EE, 0x6EF, .right),
  (0x6FA, 0x6FC, .both), (0x6FF, 0x6FF, .both), (0x710, 0x710, .right), (0x712, 0x714, .both),
  (0x715, 0x719, .right), (0x71A, 0x71D, .both), (0x71E, 0x71E, .right), (0x71F, 0x727, .both),
  (0x728, 0x728, .right), (0x729, 0x729, .both), (0x72A, 0x72A, .right), (0x72B, 0x72B, .both),
  (0x72C, 0x72C, .right), (0x72D, 0x72E, .both), (0x72F, 0x72F, .right), (0x74D, 0x74D, .right),
  (0x74E, 0x758, .both), (0x759, 0x75B, .right), (0x75C, 0x766, .both), (0x850, 0x853, .both),
  (0x854, 0x854, .right), (0x855, 0x855, .both), (0x8A0, 0x8A0, .both), (0x8A2, 0x8A9, .both),
  (0x8AA, 0x8AC, .right), (0x1807, 0x1807, .both), (0x1820, 0x1877, .both),
  (0x1887, 0x18A8, .both), (0x18AA, 0x18AA, .both), (0xA840, 0xA871, .both),
  (0xA872, 0xA872, .left)]

def joining? (c : Nat) : Option Joining :=
  (joiningRanges.find? fun r => r.1 ≤ c && c ≤ r.2.1).map fun r => r.2.2

/-- Signs that silence the vowel of the letter in front of them. -/
def viramas : List Nat := [
  0x94D, 0x9CD, 0xA4D, 0xACD, 0xB4D, 0xBCD, 0xC4D, 0xCCD, 0xD3B, 0xD3C, 0xD4D, 0xDCA, 0xE3A,
  0xEBA, 0xF84, 0x1039, 0x103A, 0x1714, 0x1734, 0x17D2, 0x1A60, 0x1B44, 0x1BAA, 0x1BAB, 0x1BF2,
  0x1BF3, 0x2D7F, 0xA806, 0xA82C, 0xA8C4, 0xA953, 0xA9C0, 0xAAF6, 0xABED, 0x10A3F, 0x11046,
  0x1107F, 0x110B9, 0x11133, 0x11134, 0x111C0, 0x11235, 0x112EA, 0x1134D, 0x11442, 0x114C2,
  0x115BF, 0x1163F, 0x116B6, 0x1172B, 0x11839, 0x1193D, 0x1193E, 0x119E0, 0x11A34, 0x11A47,
  0x11A99, 0x11C3F, 0x11D44, 0x11D45, 0x11D97]

def nonJoiner : Nat := 0x200C

def joiner : Nat := 0x200D

def joinsNext (c : Nat) : Bool := (joining? c).any (· ≠ .right)

def joinsPrevious (c : Nat) : Bool := (joining? c).any (· ≠ .left)

/-- Whether the first joiner of a label stands well, if there is one. Both may follow a virama, and
a non-joiner may also part letters that join towards each other. The first argument is what comes
before, read backwards. -/
def joinerFits? : List Nat → List Nat → Option Bool
  | _, [] => none
  | before, c :: after =>
    if c = joiner then some (before.head?.any viramas.contains)
    else if c = nonJoiner then
      some (before.head?.any viramas.contains ||
        (before.any joinsNext && after.any joinsPrevious))
    else joinerFits? (c :: before) after

end ZoneKeeper.Idna
