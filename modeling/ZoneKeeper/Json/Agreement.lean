import ZoneKeeper.Json

namespace ZoneKeeper.Json

def hasMembers : Json → Bool
  | number _ | array _ | object _ => true
  | _ => false

/-- A number of lossless-json is an object with its source text and a mark. -/
def keys : Json → List Text
  | number _ => ["value", "isLosslessNumber"]
  | array items => (List.range items.length).map Text.ofNat
  | object members => members.map Prod.fst
  | _ => []

def member? (v : Json) (key : Text) : Option Json :=
  match v with
  | number source =>
    if key = Text.ofString "value" then some (string source)
    else if key = Text.ofString "isLosslessNumber" then some (bool true)
    else none
  | array items => (index? key).bind fun i => items[i]?
  | object members => Members.get? members key
  | _ => none

/-- The key under which every value with members answers with another, empty one that it is based
on, unless lossless-json has read a member of this name into it. -/
def baseKey : Text := "__proto__"

def isNull : Json → Bool
  | null => true
  | _ => false

/-- Agreement with the base of all objects, which has no members and no base. -/
def agreesWithRoot : Json → Bool
  | array items => items.isEmpty
  | object members => members.all fun (k, v) => k = baseKey && isNull v
  | _ => false

/-- Agreement with what a value is based on. The bases of arrays and numbers have no members
either, and are based on the base of objects. -/
def agreesWithBaseOf (w v : Json) : Bool :=
  match w, v with
  | object _, v => agreesWithRoot v
  | _, array items => items.isEmpty
  | _, object members => members.all fun (k, x) => k = baseKey && agreesWithRoot x
  | _, _ => false

/-- A member of one side that the other side lacks. -/
def agreesWithMissing (w : Json) (key : Text) (v : Json) : Bool :=
  key = baseKey && agreesWithBaseOf w v

/-- Every key of `w` that `v` lacks is one that does not count. -/
def lacksNothingOf (v w : Json) : Bool :=
  w.keys.all fun k =>
    (v.member? k).isSome || (w.member? k).any (agreesWithMissing v k)

mutual

/-- The test of lossless-json for a repeated key, whose old and new value have to be deeply equal.
Values with members are compared by their members and not by their kind, so an array agrees with an
object that has the same items under index keys, and a number stands for the object that
lossless-json makes of it. -/
def agree (v w : Json) : Bool :=
  match v with
  | null => w.isNull
  | bool a =>
    match w with
    | .bool b => a = b
    | _ => false
  | string a =>
    match w with
    | .string b => a = b
    | _ => false
  | number source =>
    w.hasMembers && lacksNothingOf (number source) w &&
      match w.member? "value", w.member? "isLosslessNumber" with
      | some (.string s), some (.bool true) => s = source
      | _, _ => false
  | array xs =>
    match w with
    | .array ys => xs.length = ys.length && agreeItems xs ys
    | w => w.hasMembers && lacksNothingOf (array xs) w && agreeIndexed xs 0 w
  | object members => w.hasMembers && lacksNothingOf (object members) w && agreeMembers members w
termination_by structural v

def agreeItems (xs ys : List Json) : Bool :=
  match xs with
  | [] => true
  | x :: xs =>
    match ys with
    | [] => true
    | y :: ys => agree x y && agreeItems xs ys
termination_by structural xs

/-- The items against the members under the keys from `i` on. -/
def agreeIndexed (xs : List Json) (i : Nat) (w : Json) : Bool :=
  match xs with
  | [] => true
  | x :: xs => (w.member? (Text.ofNat i)).any (agree x) && agreeIndexed xs (i + 1) w
termination_by structural xs

def agreeMembers (members : List (Text × Json)) (w : Json) : Bool :=
  match members with
  | [] => true
  | (k, v) :: rest =>
    (match w.member? k with
      | some x => agree v x
      | none => agreesWithMissing w k v) && agreeMembers rest w
termination_by structural members

end

end ZoneKeeper.Json
