import ZoneKeeper.Url

namespace ZoneKeeper.Form

abbrev Entries := List (Text × Text)

def put (entries : Entries) (name value : Text) : Entries :=
  match entries with
  | [] => [(name, value)]
  | (n, v) :: rest => if n = name then (n, value) :: rest else (n, v) :: put rest name value

/-- One entry for each name; of two names that become equal the later gives the value. -/
def ofPairs (pairs : Entries) : Entries :=
  pairs.foldl (fun entries (n, v) => put entries (Text.repair n) (Text.repair v)) []

def insertSorted (e : Text × Text) : Entries → Entries
  | [] => [e]
  | x :: rest => if Text.le e.1 x.1 then e :: x :: rest else x :: insertSorted e rest

/-- Entries of one name keep their order. -/
def sort (entries : Entries) : Entries := entries.foldr insertSorted []

def isPlain (b : UInt8) : Bool :=
  (0x30 ≤ b && b ≤ 0x39) || (0x41 ≤ b && b ≤ 0x5A) || (0x61 ≤ b && b ≤ 0x7A) || b = 0x2A ||
    b = 0x2D || b = 0x2E || b = 0x5F

def encodeText (t : Text) : Text :=
  (Utf8.encode t).flatMap fun b =>
    if b = 0x20 then [0x2B] else if isPlain b then [b.toUInt16] else Url.percent b

def encode (entries : Entries) : Text :=
  Text.join [0x26] (entries.map fun (n, v) => encodeText n ++ 0x3D :: encodeText v)

end ZoneKeeper.Form
