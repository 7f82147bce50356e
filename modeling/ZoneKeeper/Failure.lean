import ZoneKeeper.Envelope
import ZoneKeeper.Report
import ZoneKeeper.Settings
import ZoneKeeper.Text.SingleLine

namespace ZoneKeeper

inductive Refusal
  | notSuccessful
  | otherName (found : Option Text) (expected : Text)
  | noRecordSet (expected : Text)

inductive Failure
  | noAddress (given : Text)
  | unknownProvider (name : Text) (known : List Text)
  | settings (r : Json.Rejection Settings.Fault)
  | badAddress (label : Text) (endpoint : Endpoint) (path : Text)
  | noPayload (endpoint : Endpoint)
  /-- The client gave no answer. -/
  | unanswered (label : Text) (endpoint : Endpoint) (cancelled : Bool) (cause : Thrown)
  /-- An answer came, but its body could not be read. -/
  | unreadable (label : Text) (endpoint : Endpoint) (cancelled : Bool) (status : Status)
      (cause : Thrown)
  | badStatus (label : Text) (endpoint : Endpoint) (status : Status) (body : Text)
  | undecodable (endpoint : Endpoint) (body : Text) (r : Json.Rejection Envelope.Fault)
  | refused (endpoint : Endpoint) (body : Text) (r : Refusal)

namespace Failure

def quoted (t : Text) : Text := 0x22 :: t ++ [0x22]

def place (label : Text) (endpoint : Endpoint) : Text := label ++ ": " ++ endpoint.name ++ ": "

def refusalMessage (body : Text) : Refusal → Text
  | .notSuccessful => "response doesn't indicate success: " ++ Text.singleLine body
  | .otherName found expected =>
    "response is for " ++ quoted (found.getD []) ++ ", expected " ++ quoted expected
  | .noRecordSet expected => "response has no record set for " ++ quoted expected

def issues (faults : List Settings.Fault) : List Text := faults.map Settings.Fault.message

def message : Failure → Text
  | noAddress given => quoted given ++ " is not an IPv4 address"
  | unknownProvider name _ => "Unknown DNS provider " ++ quoted name
  | settings .noJson => Api.label ++ ": settings are not valid JSON"
  | settings (.faults found) => Api.label ++ ": " ++ Text.join "; " (issues found)
  | badAddress label endpoint path =>
    place label endpoint ++ "failed creating HTTP request for " ++ quoted path
  | noPayload endpoint => place Api.label endpoint ++ "payload cannot be serialised as JSON"
  | unanswered label endpoint cancelled _ =>
    place label endpoint ++
      (if cancelled then "HTTP request cancelled" else "failed performing HTTP request" : String)
  | unreadable label endpoint _ _ _ => place label endpoint ++ "failed reading response body"
  | badStatus label endpoint status _ =>
    place label endpoint ++ "HTTP status is " ++ status.toText
  | undecodable endpoint _ .noJson => place Api.label endpoint ++ "response is not valid JSON"
  | undecodable endpoint _ (.faults found) =>
    place Api.label endpoint ++ "unexpected response shape: " ++
      Text.join "; " (found.map Envelope.Fault.toText)
  | refused endpoint body r => place Api.label endpoint ++ refusalMessage body r

def kind : Failure → Report.Kind
  | noAddress _ => .range
  | unknownProvider _ known =>
    .configuration ["provider must be one of: " ++ Text.join ", " known] none
  | settings .noJson => .configuration [] (some .noJson)
  | settings (.faults found) => .configuration (issues found) (some .badShape)
  | badAddress _ endpoint _ => .request endpoint (some .badAddress)
  | noPayload endpoint => .request endpoint none
  | unanswered _ endpoint cancelled cause =>
    .transport endpoint ⟨cancelled, none, none, some (.thrown cause)⟩
  | unreadable _ endpoint cancelled status cause =>
    .transport endpoint ⟨cancelled, some status, none, some (.thrown cause)⟩
  | badStatus _ endpoint status body => .transport endpoint ⟨false, some status, some body, none⟩
  | undecodable endpoint body .noJson => .decoding endpoint (some body) (some .noJson)
  | undecodable endpoint body (.faults _) => .decoding endpoint (some body) (some .badShape)
  | refused endpoint body _ => .reconciliation endpoint (some body)

def report (f : Failure) : Report := ⟨f.kind, f.message⟩

end Failure

end ZoneKeeper
