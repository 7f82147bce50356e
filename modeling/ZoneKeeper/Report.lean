import ZoneKeeper.Api.Endpoint
import ZoneKeeper.Api.Status

namespace ZoneKeeper

structure Thrown where
  name : Text
  message : Text
deriving DecidableEq

inductive Cause
  | noJson
  | badShape
  | badAddress
  | thrown (t : Thrown)
deriving DecidableEq

namespace Report

/-- What is known of a call that failed. The status is there if an answer came, and the body if it
was read to the end. -/
structure Transport where
  cancelled : Bool := false
  status : Option Status := none
  body : Option Text := none
  cause : Option Cause := none
deriving DecidableEq

inductive Kind
  | range
  | general (cause : Option Cause)
  | configuration (issues : List Text) (cause : Option Cause)
  | request (endpoint : Endpoint) (cause : Option Cause)
  | transport (endpoint : Endpoint) (details : Transport)
  | decoding (endpoint : Endpoint) (body : Option Text) (cause : Option Cause)
  | reconciliation (endpoint : Endpoint) (body : Option Text)
deriving DecidableEq

namespace Kind

def name : Kind → Text
  | range => "RangeError"
  | general _ => "DdnsError"
  | configuration _ _ => "ConfigValidationError"
  | request _ _ => "RequestConstructionError"
  | transport _ _ => "TransportError"
  | decoding _ _ _ => "DecodeError"
  | reconciliation _ _ => "ReconciliationError"

def endpoint? : Kind → Option Endpoint
  | request e _ | transport e _ | decoding e _ _ | reconciliation e _ => some e
  | _ => none

def body? : Kind → Option Text
  | transport _ details => details.body
  | decoding _ body _ | reconciliation _ body => body
  | _ => none

def cause? : Kind → Option Cause
  | general c | configuration _ c | request _ c | decoding _ _ c => c
  | transport _ details => details.cause
  | range | reconciliation _ _ => none

end Kind

end Report

structure Report where
  kind : Report.Kind
  message : Text
deriving DecidableEq

namespace Report

def toText (r : Report) : Text :=
  if r.message = [] then r.kind.name else r.kind.name ++ ": " ++ r.message

end Report

end ZoneKeeper
