import Mathlib
import ZoneKeeper.Proofs.Api.Dialogue

namespace ZoneKeeper

namespace Reply

def status? : Reply → Option Status
  | body status _ | brokenBody status _ => some status
  | nothing _ => none

def text? : Reply → Option Text
  | body _ text => some text
  | brokenBody _ _ | nothing _ => none

def failure? : Reply → Option Thrown
  | body _ _ => none
  | brokenBody _ cause | nothing cause => some cause

end Reply

/-- What a call does to its client. -/
inductive Act
  | send (r : Request)
  | read

namespace Act

def request? : Act → Option Request
  | send r => some r
  | read => none

/-- Where a script can abort the signal during an act. -/
def point : Act → AbortPoint
  | send _ => .call
  | read => .body

end Act

structure Answered where
  status : Status
  body : Except Thrown Text

def Reply.arrives : Reply → Except Thrown Answered
  | body status text => .ok ⟨status, .ok text⟩
  | brokenBody status cause => .ok ⟨status, .error cause⟩
  | nothing cause => .error cause

/-- The other side of a single call: what it has to say, the signal as it stands, and the acts so
far. -/
structure Client where
  reply : Reply
  abort : Option AbortPoint
  signal : Signal
  acts : List Act

namespace Client

def after (c : Client) (a : Act) : Client where
  reply := c.reply
  abort := c.abort
  signal := if c.abort = some a.point then c.signal.abort else c.signal
  acts := c.acts ++ [a]

def send (c : Client) (r : Request) : Except Thrown Answered × Client :=
  (c.reply.arrives, c.after (.send r))

def read (c : Client) (answered : Answered) : Except Thrown Text × Client :=
  (answered.body, c.after .read)

structure Course where
  client : Client
  log : List Log.Event
  outcome : Except Failure Text

/-- A call of a client, one act after the other. -/
def call (c : Client) (r : Request) : Course :=
  match c.send r with
  | (.error cause, c) =>
    ⟨c, [.calling r.endpoint],
      .error (.unanswered r.label r.endpoint c.signal.isAborted cause)⟩
  | (.ok answered, c) =>
    match c.read answered with
    | (.error cause, c) =>
      ⟨c, [.calling r.endpoint],
        .error (.unreadable r.label r.endpoint c.signal.isAborted answered.status cause)⟩
    | (.ok text, c) =>
      ⟨c, [.calling r.endpoint, .answered r.endpoint answered.status],
        if answered.status = Status.ok then .ok text
        else .error (.badStatus r.label r.endpoint answered.status text)⟩

/-- The body is read exactly if there is an answer. -/
def actsOf (r : Request) (reply : Reply) : List Act :=
  .send r :: reply.status?.toList.map fun _ => .read

section Calls
variable {c : Client} {status : Status} {cause : Thrown}

theorem call_of_nothing (h : c.reply = .nothing cause) (r : Request) :
    c.call r = ⟨c.after (.send r), [.calling r.endpoint],
      .error (.unanswered r.label r.endpoint (c.after (.send r)).signal.isAborted cause)⟩ := by
  simp only [call, send, h, Reply.arrives]

theorem call_of_brokenBody (h : c.reply = .brokenBody status cause) (r : Request) :
    c.call r = ⟨(c.after (.send r)).after .read, [.calling r.endpoint],
      .error (.unreadable r.label r.endpoint
        ((c.after (.send r)).after .read).signal.isAborted status cause)⟩ := by
  simp only [call, send, read, h, Reply.arrives]

theorem call_of_body {text : Text} (h : c.reply = .body status text) (r : Request) :
    c.call r = ⟨(c.after (.send r)).after .read,
      [.calling r.endpoint, .answered r.endpoint status],
      if status = Status.ok then .ok text
      else .error (.badStatus r.label r.endpoint status text)⟩ := by
  simp only [call, send, read, h, Reply.arrives]

theorem client_call (c : Client) (r : Request) :
    (c.call r).client = (actsOf r c.reply).foldl after c := by
  cases h : c.reply with
  | nothing cause =>
    rw [call_of_nothing h]
    rfl
  | brokenBody status cause =>
    rw [call_of_brokenBody h]
    rfl
  | body status text =>
    rw [call_of_body h]
    rfl

/-- The error of a call that did not succeed. The status is known if an answer came, the body if it
was read, and only a failure of the client or of the reader has a cause. -/
theorem failure_call (c : Client) (r : Request) (h : ∀ text, c.reply ≠ .body Status.ok text) :
    ∃ f details, (c.call r).outcome = .error f ∧ f.kind = .transport r.endpoint details ∧
      details.status = c.reply.status? ∧ details.body = c.reply.text? ∧
      details.cause = c.reply.failure?.map .thrown ∧
      (details.cancelled = true ↔
        c.reply.failure?.isSome ∧ (c.call r).client.signal = .aborted) := by
  have haborted : ∀ s : Signal, s.isAborted = true ↔ s = .aborted := fun s => decide_eq_true_iff
  cases hreply : c.reply with
  | nothing cause =>
    rw [call_of_nothing hreply]
    refine ⟨_, _, rfl, rfl, rfl, rfl, rfl, ?_⟩
    simp [haborted, Reply.failure?]
  | brokenBody status cause =>
    rw [call_of_brokenBody hreply]
    refine ⟨_, _, rfl, rfl, rfl, rfl, rfl, ?_⟩
    simp [haborted, Reply.failure?]
  | body status text =>
    have hstatus : status ≠ Status.ok := by
      rintro rfl
      exact h text hreply
    rw [call_of_body hreply, if_neg hstatus]
    refine ⟨_, _, rfl, rfl, rfl, rfl, rfl, ?_⟩
    simp [Reply.failure?]

theorem outcome_call (c : Client) (r : Request) :
    (∃ text, c.reply = .body Status.ok text ∧ (c.call r).outcome = .ok text) ∨
      (∀ text, c.reply ≠ .body Status.ok text) ∧
        ∃ f details, (c.call r).outcome = .error f ∧ f.kind = .transport r.endpoint details ∧
          details.status = c.reply.status? ∧ details.body = c.reply.text? ∧
          details.cause = c.reply.failure?.map .thrown ∧
          (details.cancelled = true ↔
            c.reply.failure?.isSome ∧ (c.call r).client.signal = .aborted) := by
  by_cases h : ∃ text, c.reply = .body Status.ok text
  · obtain ⟨text, htext⟩ := h
    refine Or.inl ⟨text, htext, ?_⟩
    rw [call_of_body htext, if_pos rfl]
  · exact Or.inr ⟨not_exists.mp h, failure_call c r (not_exists.mp h)⟩

end Calls

section Acts
variable (c : Client)

theorem acts_foldl_after (acts : List Act) : (acts.foldl after c).acts = c.acts ++ acts := by
  induction acts generalizing c with
  | nil => exact (List.append_nil c.acts).symm
  | cons a acts ih =>
    rw [List.foldl_cons, ih]
    simp [after]

theorem aborted_after (a : Act) :
    ((c.after a).signal = .aborted ↔
      c.signal = .aborted ∨ c.signal = .live ∧ c.abort = some a.point) ∧
    ((c.after a).signal = .live ↔ c.signal = .live ∧ c.abort ≠ some a.point) := by
  by_cases h : c.abort = some a.point
  · cases hs : c.signal <;> simp [after, h, hs, Signal.abort]
  · simp [after, h]

theorem aborted_foldl_after (acts : List Act) :
    (acts.foldl after c).signal = .aborted ↔
      c.signal = .aborted ∨ c.signal = .live ∧ ∃ a ∈ acts, c.abort = some a.point := by
  induction acts generalizing c with
  | nil => simp
  | cons a acts ih =>
    have habort : (c.after a).abort = c.abort := rfl
    rw [List.foldl_cons, ih, (aborted_after c a).1, (aborted_after c a).2, habort]
    by_cases h : c.abort = some a.point
    · simp [h]
    · simp [h]

theorem acts_call (r : Request) : (c.call r).client.acts = c.acts ++ actsOf r c.reply := by
  rw [client_call, acts_foldl_after]

theorem aborted_call (r : Request) :
    (c.call r).client.signal = .aborted ↔
      c.signal = .aborted ∨ c.signal = .live ∧ ∃ a ∈ actsOf r c.reply, c.abort = some a.point := by
  rw [client_call, aborted_foldl_after]

end Acts

end Client

namespace Script

def abort? (s : Script) : Option AbortPoint := s.responses.head?.bind Response.abort

def client (s : Script) : Client := ⟨s.reply 0, s.abort?, s.signal, []⟩

theorem aborts_iff (x : Response) (r : Request) :
    Response.aborts x = true ↔ ∃ a ∈ Client.actsOf r x.reply, x.abort = some a.point := by
  obtain ⟨abort, reply⟩ := x
  cases abort with
  | none => simp [Response.aborts]
  | some p =>
    cases p with
    | call => simp [Response.aborts, Client.actsOf, Act.point]
    | body => cases reply <;> simp [Response.aborts, Client.actsOf, Act.point, Reply.status?]

theorem aborted_answer (s : Script) (r : Request) :
    s.answer.1.aborted = (s.client.call r).client.signal.isAborted := by
  have haborted : (s.client.call r).client.signal = .aborted ↔
      s.signal = .aborted ∨
        s.signal = .live ∧ ∃ a ∈ Client.actsOf r (s.reply 0), s.abort? = some a.point := by
    rw [Client.client_call, Client.aborted_foldl_after]
    rfl
  rw [Bool.eq_iff_iff, Signal.isAborted, decide_eq_true_iff, haborted]
  cases h : s.responses with
  | nil => simp [answer, abort?, h, Signal.isAborted]
  | cons x rest =>
    have hreply : s.reply 0 = x.reply := by simp [reply, h]
    have habort : s.abort? = x.abort := by simp [abort?, h]
    rw [hreply, habort, ← aborts_iff]
    by_cases hx : Response.aborts x = true
    · cases hs : s.signal <;> simp [answer, h, hx, hs, Signal.isAborted, Signal.abort]
    · simp [answer, h, hx, Signal.isAborted]

end Script

namespace Dialogue

/-- Run as a whole, a call is what it is act by act. -/
theorem run_exchange (r : Request) (s : Script) :
    (exchange r).run s =
      let c := s.client.call r
      ⟨c.client.acts.filterMap Act.request?, c.log, c.outcome⟩ := by
  have hrun := run_exchange_bind r done s
  rw [bind_eq, bind_done] at hrun
  rw [hrun, Script.aborted_answer s r]
  have hclient : s.client.reply = s.reply 0 := rfl
  cases hreply : s.reply 0 with
  | nothing cause =>
    rw [Client.call_of_nothing (hclient.trans hreply)]
    rfl
  | brokenBody status cause =>
    rw [Client.call_of_brokenBody (hclient.trans hreply)]
    rfl
  | body status text =>
    rw [Client.call_of_body (hclient.trans hreply)]
    by_cases h : status = Status.ok
    · simp only [if_pos h]
      rfl
    · simp only [if_neg h]
      rfl

/-- What a call does and how it ends. It sends its request once, and if an answer comes it reads the
body of that once, whatever the status is. It succeeds exactly with a body that was read and the one
good status, and fails else in its transport. It counts as cancelled if the client or the reader
failed while the signal was aborted, be it by an act of this very call. -/
theorem exchange_outcome (r : Request) (s : Script) :
    let t := (exchange r).run s
    let c := s.client.call r
    let reply := s.reply 0
    t = ⟨c.client.acts.filterMap Act.request?, c.log, c.outcome⟩ ∧
    c.client.acts = .send r :: reply.status?.toList.map (fun _ => .read) ∧
    t.requests = [r] ∧
    (c.client.signal = .aborted ↔
      s.signal = .aborted ∨
        s.signal = .live ∧ ∃ a ∈ c.client.acts, s.abort? = some a.point) ∧
    ((∃ text, reply = .body Status.ok text ∧ t.outcome = .ok text) ∨
      (∀ text, reply ≠ .body Status.ok text) ∧
        ∃ f details, t.outcome = .error f ∧ f.kind = .transport r.endpoint details ∧
          details.status = reply.status? ∧ details.body = reply.text? ∧
          details.cause = reply.failure?.map .thrown ∧
          (details.cancelled = true ↔ reply.failure?.isSome ∧ c.client.signal = .aborted)) := by
  intro t c reply
  have ht : t = ⟨c.client.acts.filterMap Act.request?, c.log, c.outcome⟩ := run_exchange r s
  have hacts : c.client.acts = Client.actsOf r reply := Client.acts_call s.client r
  have hout : t.outcome = c.outcome := congrArg Transcript.outcome ht
  refine ⟨ht, hacts, ?_, ?_, ?_⟩
  · rw [ht]
    show c.client.acts.filterMap Act.request? = [r]
    rw [hacts, Client.actsOf]
    cases reply.status? <;> simp [Act.request?]
  · rw [hacts]
    exact Client.aborted_call s.client r
  · rw [hout]
    exact Client.outcome_call s.client r

end Dialogue

end ZoneKeeper
