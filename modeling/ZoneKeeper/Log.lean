import ZoneKeeper.Api.Endpoint
import ZoneKeeper.Api.Status
import ZoneKeeper.Json.Number

namespace ZoneKeeper.Log

inductive Level
  | trace
  | debug
  | info
  | warn
  | error
  | fatal
  | silent
deriving DecidableEq

namespace Level

def rank : Level → Nat
  | trace => 10
  | debug => 20
  | info => 30
  | warn => 40
  | error => 50
  | fatal => 60
  | silent => 70

def ofName? (t : Text) : Option Level :=
  if t = Text.ofString "trace" then some trace
  else if t = Text.ofString "debug" then some debug
  else if t = Text.ofString "info" then some info
  else if t = Text.ofString "warn" then some warn
  else if t = Text.ofString "error" then some error
  else if t = Text.ofString "fatal" then some fatal
  else if t = Text.ofString "silent" then some silent
  else none

end Level

/-- What pino makes of the name of a level: a level, or the message of the error that it throws. -/
abbrev Levels := Text → Except Text Level

/-- The levels that pino documents. It minds no capitals, but in the name that turns it off. -/
def Level.read : Levels := fun name =>
  match ofName? name <|> (ofName? name.toLower).filter (· ≠ silent) with
  | some level => .ok level
  | none => .error ("default level:" ++ name ++ " must be included in custom levels")

inductive Event
  | calling (endpoint : Endpoint)
  | answered (endpoint : Endpoint) (status : Status)
  | notSuccessful (endpoint : Endpoint)
  | otherName (fqdn : Option Text)
  | noRecordSet
  | updated (ip : Text)
deriving DecidableEq

namespace Event

def level : Event → Level
  | calling _ | answered _ _ => .debug
  | notSuccessful _ | otherName _ | noRecordSet => .warn
  | updated _ => .info

def message : Event → Text
  | calling _ => "calling provider API"
  | answered _ _ => "provider API answered"
  | notSuccessful _ => "provider did not report success"
  | otherName _ => "provider answered for another FQDN"
  | noRecordSet => "provider answered without a record set"
  | updated _ => "A record updated"

def endpoint? : Event → Option Endpoint
  | calling e | answered e _ | notSuccessful e => some e
  | otherName _ | noRecordSet => some .getData
  | updated _ => none

def details : Event → Members
  | answered _ status => [("status", .ofDouble status)]
  | otherName fqdn => fqdn.toList.map fun t => ("fqdn", .string t)
  | updated ip => [("ip", .string ip)]
  | calling _ | notSuccessful _ | noRecordSet => []

def fields (e : Event) : Members :=
  (e.endpoint?.toList.map fun endpoint => (Text.ofString "phase", .string endpoint.name)) ++
    e.details

def entry (context : Members) (e : Event) : Members :=
  [(Text.ofString "level", .number (Text.ofNat e.level.rank))] ++ context ++ e.fields ++
    [(Text.ofString "msg", .string e.message)]

end Event

def keep (level : Level) (events : List Event) : List Event :=
  events.filter fun e => level.rank ≤ e.level.rank

end ZoneKeeper.Log
