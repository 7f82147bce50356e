import ZoneKeeper.Ipv4

namespace ZoneKeeper

structure Ipv6 where
  groups : List UInt16
  eight : groups.length = 8
deriving DecidableEq

namespace Ipv6

def ofGroups? (groups : List UInt16) : Option Ipv6 :=
  if h : groups.length = 8 then some ⟨groups, h⟩ else none

def group? (t : Text) : Option UInt16 :=
  if t ≠ [] && t.length ≤ 4 then (Text.inBase? 16 t).map Nat.toUInt16 else none

/-- The last two groups may be written as an IPv4 address. -/
def groupsOfIpv4 (ip : Ipv4) : List UInt16 :=
  [0x100 * ip.a.toUInt16 + ip.b.toUInt16, 0x100 * ip.c.toUInt16 + ip.d.toUInt16]

def lastGroups? (t : Text) : Option (List UInt16) :=
  ((group? t).map fun g => [g]) <|> (Ipv4.ofText? t).map groupsOfIpv4

def groups? : List Text → Option (List UInt16)
  | [] => some []
  | [t] => lastGroups? t
  | t :: rest => do return (← group? t) :: (← groups? rest)

def parts (t : Text) : List Text := if t = [] then [] else t.splitOn 0x3A

/-- The text up to the first two colons in a row, and what follows them. -/
def cutGap : Text → Text × Option Text
  | 0x3A :: 0x3A :: rest => ([], some rest)
  | u :: rest => (u :: (cutGap rest).1, (cutGap rest).2)
  | [] => ([], none)

/-- Two colons in a row stand for as many zeros as there is room for, which is one at least. -/
def ofText? (t : Text) : Option Ipv6 := do
  match cutGap t with
  | (t, none) => ofGroups? (← groups? (parts t))
  | (front, some back) =>
    let front ← (parts front).mapM group?
    let back ← groups? (parts back)
    if front.length + back.length ≤ 7 then
      ofGroups? (front ++ List.replicate (8 - (front.length + back.length)) 0 ++ back)
    else none

/-- Where the longest run of zeros starts, and how many there are; of several the first one. -/
def longestGap (groups : List UInt16) : Nat × Nat :=
  (List.range groups.length).foldl (fun best i =>
    let n := ((groups.drop i).takeWhile (· = 0)).length
    if best.2 < n then (i, n) else best) (0, 0)

def joinGroups (groups : List UInt16) : Text :=
  Text.join [0x3A] (groups.map fun g => Text.ofChars (Nat.toDigits 16 g.toNat))

def toText (ip : Ipv6) : Text :=
  let (start, count) := longestGap ip.groups
  if count < 2 then joinGroups ip.groups
  else
    joinGroups (ip.groups.take start) ++ [0x3A, 0x3A] ++ joinGroups (ip.groups.drop (start + count))

end Ipv6

end ZoneKeeper
