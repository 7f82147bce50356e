import ZoneKeeper.Api.Request
import ZoneKeeper.Failure
import ZoneKeeper.Log

namespace ZoneKeeper

inductive Reply
  | body (status : Status) (text : Text)
  | brokenBody (status : Status) (cause : Thrown)
  | nothing (cause : Thrown)

/-- A reply, and whether the caller's signal was aborted when it was complete. -/
structure Delivery where
  reply : Reply
  aborted : Bool

/-- A piece of work that talks to a provider. It does not say who answers, so it can be run against
a script, a server or a person. -/
inductive Dialogue (α : Type)
  | done (a : α)
  | fail (f : Failure)
  | log (e : Log.Event) (next : Dialogue α)
  | call (r : Request) (next : Delivery → Dialogue α)

namespace Dialogue

def bind {α β : Type} (d : Dialogue α) (f : α → Dialogue β) : Dialogue β :=
  match d with
  | done a => f a
  | fail e => fail e
  | log e next => log e (next.bind f)
  | call r next => call r fun x => (next x).bind f

instance : Monad Dialogue where
  pure := done
  bind := bind

def note (e : Log.Event) : Dialogue Unit := log e (done ())

def failWith {α : Type} (e : Log.Event) (f : Failure) : Dialogue α := log e (fail f)

def ofExcept {α : Type} : Except Failure α → Dialogue α
  | .ok a => done a
  | .error f => fail f

/-- A call and the text of its answer. The body is read whatever the status is, and only one status
is a success. -/
def exchange (r : Request) : Dialogue Text :=
  log (.calling r.endpoint) <| call r fun d =>
    match d.reply with
    | .nothing cause => fail (.unanswered r.label r.endpoint d.aborted cause)
    | .brokenBody status cause => fail (.unreadable r.label r.endpoint d.aborted status cause)
    | .body status text =>
      log (.answered r.endpoint status) <|
        if status = Status.ok then done text else fail (.badStatus r.label r.endpoint status text)

end Dialogue

end ZoneKeeper
