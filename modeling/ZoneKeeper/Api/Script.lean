import ZoneKeeper.Api.Dialogue

namespace ZoneKeeper

/-- The caller's signal: there may be none, and one that was aborted stays so. -/
inductive Signal
  | none
  | live
  | aborted
deriving DecidableEq

namespace Signal

def isGiven (s : Signal) : Bool := s ≠ none

def isAborted (s : Signal) : Bool := s = aborted

def abort : Signal → Signal
  | none => none
  | live | aborted => aborted

end Signal

inductive AbortPoint
  | call
  | body
deriving DecidableEq

structure Response where
  abort : Option AbortPoint
  reply : Reply

structure Script where
  responses : List Response
  signal : Signal

namespace Script

/-- A call without an answer has no body whose reading could abort the signal. -/
def Response.aborts (r : Response) : Bool :=
  match r.abort, r.reply with
  | none, _ => false
  | some .call, _ => true
  | some .body, .nothing _ => false
  | some .body, _ => true

def noResponse : Thrown := ⟨"Error", "no scripted response"⟩

def answer (s : Script) : Delivery × Script :=
  match s.responses with
  | [] => (⟨.nothing noResponse, s.signal.isAborted⟩, s)
  | r :: rest =>
    let signal := if Response.aborts r then s.signal.abort else s.signal
    (⟨r.reply, signal.isAborted⟩, ⟨rest, signal⟩)

end Script

/-- What a run leaves behind: the requests and the log in order, and how it ended. -/
structure Transcript (α : Type) where
  requests : List Request
  log : List Log.Event
  outcome : Except Failure α

namespace Dialogue

def run {α : Type} : Dialogue α → Script → Transcript α
  | done a, _ => ⟨[], [], .ok a⟩
  | fail f, _ => ⟨[], [], .error f⟩
  | log e next, s =>
    let t := next.run s
    { t with log := e :: t.log }
  | call r next, s =>
    let t := (next s.answer.1).run s.answer.2
    { t with requests := r :: t.requests }

end Dialogue

end ZoneKeeper
