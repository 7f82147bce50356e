import ZoneKeeper.Api.Dialogue
import ZoneKeeper.Ipv4
import ZoneKeeper.RecordSet

namespace ZoneKeeper.Update

def request (s : Settings) (endpoint : Endpoint) (path : Text) (payload : Option Json)
    (signalled : Bool) : Except Failure Request :=
  match payload with
  | none => .error (.noPayload endpoint)
  | some payload =>
    match Request.authenticated? ⟨s.login, s.password⟩ endpoint path payload signalled with
    | some r => .ok r
    | none => .error (.badAddress Api.label endpoint path)

def exchange (s : Settings) (endpoint : Endpoint) (payload : Json) (signalled : Bool) :
    Dialogue Text := do
  let r ← .ofExcept (request s endpoint endpoint.path (some payload) signalled)
  Dialogue.exchange r

def decoded {α : Type} (endpoint : Endpoint) (body : Text)
    (e : Except (Json.Rejection Envelope.Fault) (Envelope α)) : Dialogue (Envelope α) :=
  .ofExcept (e.mapError (.undecodable endpoint body))

/-- The records in an answer to reading, if it reports success for the target. -/
def recordsOf (target body : Text) (e : Envelope Zone) : Dialogue Members :=
  let refuse {α : Type} (event : Log.Event) (r : Refusal) : Dialogue α :=
    .failWith event (.refused .getData body r)
  let other (found : Option Text) : Dialogue Members :=
    refuse (.otherName found) (.otherName found target)
  if e.succeeded then
    match e.answer with
    | .value ⟨_, .value zone⟩ =>
      if zone.fqdn = some target then
        match zone.records with
        | .value records => .done records
        | _ => refuse .noRecordSet (.noRecordSet target)
      else other zone.fqdn
    | _ => other none
  else refuse (.notSuccessful .getData) .notSuccessful

def readRecords (s : Settings) (signalled : Bool) : Dialogue Members := do
  let body ← exchange s .getData (.object [("fqdn", .string s.target)]) signalled
  let e ← decoded .getData body (Envelope.decodeZone body)
  recordsOf s.target body e

def writeRecords (s : Settings) (records : Members) (signalled : Bool) : Dialogue Unit := do
  let body ← exchange s .changeRecords
    (.object [("fqdn", .string s.target), ("records", .object records)]) signalled
  let e ← decoded .changeRecords body (Envelope.decodeChange body)
  if e.succeeded then .done ()
  else .failWith (.notSuccessful .changeRecords) (.refused .changeRecords body .notSuccessful)

/-- Points the address records of the target at `ip` and keeps all others. The provider replaces the
whole record set of a name at once and has no way to lock, so of two clients that do so at once the
later one wins. -/
def reconcile (s : Settings) (ip : Text) (signalled : Bool) : Dialogue Text := do
  let records ← readRecords s signalled
  writeRecords s (RecordSet.withAddress records s.priority ip) signalled
  Dialogue.note (.updated ip)
  return ip

/-- An address is written in its only text, whatever blanks it was given with. -/
def canonical (ip : Text) : Except Failure Text :=
  match Ipv4.read? ip with
  | some address => .ok address.toText
  | none => .error (.noAddress ip)

/-- Nothing is sent for a text that is no address. -/
def update (s : Settings) (ip : Text) (signalled : Bool) : Dialogue Text := do
  let address ← .ofExcept (canonical ip)
  reconcile s address signalled

end ZoneKeeper.Update
