import ZoneKeeper.Domain
import ZoneKeeper.Double.Numeral
import ZoneKeeper.Json.Reader
import ZoneKeeper.Text.Utf8

namespace ZoneKeeper

structure Settings where
  /-- The domain as the caller displays it. -/
  domain : Text
  /-- The full name whose records are kept. -/
  target : Text
  owner : Text
  login : Text
  password : Text
  priority : Double

namespace Settings

inductive Blob
  | missing
  | text (t : Text)
  | bytes (bs : List UInt8)
  | value (v : Json)

inductive Fault
  | noObject (found : Json.Kind)
  | noBlob
  | required (field : Text)
  | noString (field : Text)
  | badDomain (given : Text)
  | badPriority

def Fault.message : Fault → Text
  | noObject found => "Expected object, received " ++ found.name
  | noBlob => "Required"
  | required field => field ++ " is required"
  | noString field => field ++ " must be a string"
  | badDomain given => "domain \"" ++ given ++ "\" is not valid"
  | badPriority => "priority must be an integer"

/-- The JSON value of a blob. A text is read as JSON, bytes as the text they encode, and a value
that is a string as its text. -/
def Blob.json? : Blob → Except (Json.Rejection Fault) (Option Json)
  | missing => .ok none
  | text t | value (.string t) => parse t
  | bytes bs => parse (Utf8.decode bs)
  | value v => .ok (some v)
where
  parse (t : Text) : Except (Json.Rejection Fault) (Option Json) :=
    match Json.read? (fun _ _ => true) t with
    | some v => .ok (some v)
    | none => .error .noJson

def readString (field : Text) : Option Json → Except Fault Text
  | none => .error (.required field)
  | some (.string s) => .ok s
  | some _ => .error (.noString field)

/-- An empty text counts as none. -/
def readCredential (field : Text) (v : Option Json) : Except Fault Text := do
  let s ← readString field v
  if s = [] then .error (.required field) else .ok s

def readDomain (v : Option Json) : Except Fault Text := do
  let s ← readString "domain" v
  if Domain.isValid s then .ok s else .error (.badDomain s)

def checkPriority (d : Double) : Except Fault Double :=
  if d.isWhole then .ok d else .error .badPriority

def readPriority : Option Json → Except Fault Double
  | none => .ok (.ofNat 0)
  | some (.number source) => checkPriority ((Double.ofDecimal? source).getD .nan)
  | some _ => .error .badPriority

def faultOf {α : Type} : Except Fault α → List Fault
  | .ok _ => []
  | .error f => [f]

/-- The settings, or the faults of all parts that have one. -/
def ofParts (domain owner : Text) (login password target : Except Fault Text)
    (priority : Except Fault Double) : Except (List Fault) Settings :=
  match login, password, target, priority with
  | .ok login, .ok password, .ok target, .ok priority =>
    .ok ⟨domain, target, owner, login, password, priority⟩
  | _, _, _, _ => .error (faultOf login ++ faultOf password ++ faultOf target ++ faultOf priority)

def ofMembers (members : Members) (domain owner : Text) : Except (List Fault) Settings :=
  ofParts domain owner (readCredential "login" (members.get? "login"))
    (readCredential "password" (members.get? "password")) (readDomain (members.get? "domain"))
    (readPriority (members.get? "priority"))

def ofJson (v : Option Json) (domain owner : Text) : Except (List Fault) Settings :=
  match v with
  | none => .error [.noBlob]
  | some (.object members) => ofMembers members domain owner
  | some v => .error [.noObject v.kind]

def ofBlob (blob : Blob) (domain owner : Text) : Except (Json.Rejection Fault) Settings := do
  let v ← blob.json?
  (ofJson v domain owner).mapError .faults

end Settings

end ZoneKeeper
