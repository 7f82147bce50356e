import ZoneKeeper.Text

namespace ZoneKeeper

/-- A number is its source text, as lossless-json keeps it. The members of an object stand in
property order: index keys first, in ascending order, then the others in the order in which they
came. -/
inductive Json
  | null
  | bool (b : Bool)
  | number (source : Text)
  | string (s : Text)
  | array (items : List Json)
  | object (members : List (Text × Json))

abbrev Members := List (Text × Json)

/-- The number that an index key spells: digits without a leading zero, below `2 ^ 32 - 1`. -/
def index? (key : Text) : Option Nat :=
  let n := Text.digitsValue key
  if key ≠ [] && key.all CodeUnit.isDigit && (key.length = 1 || key.head? ≠ some 0x30) &&
    n ≤ 4294967294 then some n
  else none

/-- Whether a member that is there stays in front of one that is added. -/
def precedes (present added : Text) : Bool :=
  match index? present, index? added with
  | some i, some j => i < j
  | none, some _ => false
  | _, none => true

namespace Members

def get? (members : Members) (key : Text) : Option Json := members.lookup key

/-- A key that is there keeps its place; a new one goes where property order puts it. -/
def insert (members : Members) (key : Text) (value : Json) : Members :=
  match members with
  | [] => [(key, value)]
  | (k, v) :: rest =>
    if k = key then (k, value) :: rest
    else if precedes k key then (k, v) :: insert rest key value
    else (key, value) :: (k, v) :: rest

end Members

namespace Json

inductive Kind
  | null
  | boolean
  | number
  | string
  | array
  | object
deriving DecidableEq

def Kind.name : Kind → Text
  | null => "null"
  | boolean => "boolean"
  | number => "number"
  | string => "string"
  | array => "array"
  | object => "object"

def kind : Json → Kind
  | null => .null
  | bool _ => .boolean
  | number _ => .number
  | string _ => .string
  | array _ => .array
  | object _ => .object

def members? : Json → Option Members
  | object members => some members
  | _ => none

end Json

end ZoneKeeper
