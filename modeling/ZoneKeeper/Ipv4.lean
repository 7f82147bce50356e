import ZoneKeeper.Text.SingleLine

namespace ZoneKeeper

structure Ipv4 where
  a : UInt8
  b : UInt8
  c : UInt8
  d : UInt8
deriving DecidableEq

namespace Ipv4

def isOctetText (t : Text) : Bool :=
  t.all CodeUnit.isDigit &&
    (t.length = 1 || (2 ≤ t.length && t.length ≤ 3 && t.head? ≠ some 0x30))

def octet? (t : Text) : Option UInt8 :=
  let n := Text.digitsValue t
  if isOctetText t && n ≤ 255 then some n.toUInt8 else none

def ofText? (t : Text) : Option Ipv4 :=
  match t.splitOn 0x2E with
  | [a, b, c, d] => do return ⟨← octet? a, ← octet? b, ← octet? c, ← octet? d⟩
  | _ => none

def toText (ip : Ipv4) : Text :=
  Text.join [0x2E] ([ip.a, ip.b, ip.c, ip.d].map fun octet => Text.ofNat octet.toNat)

def read? (t : Text) : Option Ipv4 := ofText? t.trim

end Ipv4

end ZoneKeeper
