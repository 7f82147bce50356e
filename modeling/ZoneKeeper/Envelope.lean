import ZoneKeeper.Api.Endpoint
import ZoneKeeper.Json.Agreement
import ZoneKeeper.Json.Reader

namespace ZoneKeeper

inductive Slot (α : Type)
  | absent
  | null
  | value (a : α)

structure Answer (α : Type) where
  status : Option Text
  result : Slot α

structure Envelope (α : Type) where
  status : Option Text
  answer : Slot (Answer α)

structure Zone where
  fqdn : Option Text
  records : Slot Members

namespace Envelope

/-- To zod a number of lossless-json is an object, since it is one of its class `LosslessNumber`. An
object that only has a member `isLosslessNumber` is not of this class, and no number. -/
def kindOf (v : Json) : Json.Kind :=
  match v.kind with
  | .number => .object
  | k => k

inductive Problem
  | noObject (found : Json.Kind)
  | noString (found : Json.Kind)
  | noRecords

structure Fault where
  path : List Text
  problem : Problem

namespace Fault

def place (f : Fault) : Text :=
  if f.path = [] then "(root)" else Text.join "." f.path

def message (f : Fault) : Text :=
  match f.problem with
  | .noObject found => "Expected object, received " ++ found.name
  | .noString found => "Expected string, received " ++ found.name
  | .noRecords => "Invalid input"

def toText (f : Fault) : Text := f.place ++ ": " ++ f.message

end Fault

/-- A value, or the faults that stand in its way. -/
abbrev Reading (α : Type) := Except (List Fault) α

def Reading.both {α β γ : Type} (f : α → β → γ) (a : Reading α) (b : Reading β) : Reading γ :=
  match a, b with
  | .ok x, .ok y => .ok (f x y)
  | .error e, .ok _ => .error e
  | .ok _, .error e => .error e
  | .error e, .error e' => .error (e ++ e')

/-- The member under a name written in lower case: the one with exactly this name, and else the
first whose name differs from it in case only. A number has no members here. -/
def field? (name : Text) (v : Json) : Option Json :=
  match v with
  | .object members =>
    match members.find? fun m => m.1 = name with
    | some m => some m.2
    | none => (members.find? fun m => Text.toLower m.1 = name).map (·.2)
  | _ => none

def below (path : List Text) (name : Text) : List Text := path ++ [name]

def readText (path : List Text) : Option Json → Reading (Option Text)
  | none => .ok none
  | some (.string s) => .ok (some s)
  | some v => .error [⟨path, .noString (kindOf v)⟩]

def readSlot {α : Type} (read : Json → Reading α) : Option Json → Reading (Slot α)
  | none => .ok .absent
  | some .null => .ok .null
  | some v => (read v).map .value

def readFields {α : Type} (path : List Text) (read : Json → Reading α) (v : Json) : Reading α :=
  match kindOf v with
  | .object => read v
  | found => .error [⟨path, .noObject found⟩]

/-- An empty record set may come as an empty list. -/
def readRecords (path : List Text) : Json → Reading Members
  | .object members => .ok members
  | .array [] => .ok []
  | _ => .error [⟨path, .noRecords⟩]

def readZone (path : List Text) : Json → Reading Zone :=
  readFields path fun v =>
    .both Zone.mk (readText (below path "fqdn") (field? "fqdn" v))
      (readSlot (readRecords (below path "records")) (field? "records" v))

def readAnswer {α : Type} (result : List Text → Json → Reading α) (path : List Text) :
    Json → Reading (Answer α) :=
  readFields path fun v =>
    .both Answer.mk (readText (below path "status") (field? "status" v))
      (readSlot (result (below path "result")) (field? "result" v))

def read {α : Type} (result : List Text → Json → Reading α) : Json → Reading (Envelope α) :=
  readFields [] fun v =>
    .both Envelope.mk (readText ["status"] (field? "status" v))
      (readSlot (readAnswer result ["answer"]) (field? "answer" v))

def anyResult (_ : List Text) (v : Json) : Reading Json := .ok v

/-- The envelope in the body of an answer. Of a repeated key lossless-json takes the new value, in
the old one's place, if both agree. -/
def decode {α : Type} (result : List Text → Json → Reading α) (body : Text) :
    Except (Json.Rejection Fault) (Envelope α) :=
  match Json.read? Json.agree body with
  | none => .error .noJson
  | some v => (read result v).mapError .faults

def decodeZone (body : Text) : Except (Json.Rejection Fault) (Envelope Zone) :=
  decode readZone body

def decodeChange (body : Text) : Except (Json.Rejection Fault) (Envelope Json) :=
  decode anyResult body

def textField (name : Text) (t : Option Text) : Members := t.toList.map fun s => (name, .string s)

def slotField {α : Type} (name : Text) (toJson : α → Json) : Slot α → Members
  | .absent => []
  | .null => [(name, .null)]
  | .value a => [(name, toJson a)]

def zoneJson (zone : Zone) : Json :=
  .object (textField "fqdn" zone.fqdn ++ slotField "records" .object zone.records)

def answerJson {α : Type} (result : α → Json) (a : Answer α) : Json :=
  .object (textField "status" a.status ++ slotField "result" result a.result)

/-- The known fields alone, each under its name in lower case. -/
def toJson {α : Type} (result : α → Json) (e : Envelope α) : Json :=
  .object (textField "status" e.status ++ slotField "answer" (answerJson result) e.answer)

def succeeded {α : Type} (e : Envelope α) : Bool :=
  e.status = some Api.success && match e.answer with
    | .value a => a.status = some Api.success
    | _ => false

end Envelope

end ZoneKeeper
