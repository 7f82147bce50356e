import Mathlib
import ZoneKeeper.Proofs.Api.Dialogue

namespace ZoneKeeper

def Request.withSignal (r : Request) : Request := { r with signalled := true }

def Report.Kind.uncancelled : Report.Kind → Report.Kind
  | transport e details => transport e { details with cancelled := false }
  | kind => kind

namespace Failure

def uncancelled : Failure → Failure
  | unanswered label e _ cause => unanswered label e false cause
  | unreadable label e _ status cause => unreadable label e false status cause
  | f => f

theorem kind_uncancelled (f : Failure) : f.uncancelled.kind = f.kind.uncancelled := by
  cases f with
  | settings r => cases r <;> rfl
  | undecodable e body r => cases r <;> rfl
  | _ => rfl

/-- Only a call that was cancelled before it was answered is reported in other words. -/
inductive Reworded : Text → Text → Prop
  | same (message : Text) : Reworded message message
  | cancelled (label : Text) (e : Endpoint) :
    Reworded (place label e ++ "failed performing HTTP request")
      (place label e ++ "HTTP request cancelled")

theorem reworded_uncancelled (f : Failure) : Reworded f.uncancelled.message f.message := by
  cases f with
  | unanswered label e cancelled cause =>
    cases cancelled with
    | false => exact .same _
    | true => exact .cancelled label e
  | _ => exact .same _

end Failure

namespace Transcript
variable {α : Type}

/-- What is left of a run without the signal (`t`) beside the run with it (`t'`). -/
structure Unsignalled (t t' : Transcript α) : Prop where
  requests : t'.requests = t.requests.map Request.withSignal
  plain : ∀ r ∈ t.requests, r.signalled = false
  log : t'.log = t.log
  outcome : t.outcome = t'.outcome.mapError Failure.uncancelled

theorem Unsignalled.ending {t t' : Transcript α} (h : Unsignalled t t') :
    (∃ a, t.outcome = .ok a ∧ t'.outcome = .ok a) ∨
      ∃ f f', t.outcome = .error f ∧ t'.outcome = .error f' ∧
        f.kind = f'.kind.uncancelled ∧ Failure.Reworded f.message f'.message := by
  cases hout : t'.outcome with
  | ok a =>
    refine Or.inl ⟨a, ?_, rfl⟩
    rw [h.outcome, hout]
    rfl
  | error f' =>
    refine Or.inr ⟨f'.uncancelled, f', ?_, rfl, f'.kind_uncancelled, f'.reworded_uncancelled⟩
    rw [h.outcome, hout]
    rfl

end Transcript

namespace Script

theorem answer_of_signal_none {s : Script} (h : s.signal = .none) :
    s.answer.1 = ⟨s.reply 0, false⟩ ∧ s.rest.signal = .none := by
  unfold rest answer reply
  cases hr : s.responses with
  | nil => simp [h, Signal.isAborted]
  | cons x rest =>
    by_cases hx : Response.aborts x = true <;> simp [h, hx, Signal.isAborted, Signal.abort]

end Script

namespace Dialogue
variable {α β : Type}

/-- The first piece of work does without the signal what the second does with it, whether or not the
signal is found aborted on the way. -/
inductive Unsignalled : Dialogue α → Dialogue α → Prop
  | done (a : α) : Unsignalled (done a) (done a)
  | fail (f : Failure) : Unsignalled (fail f.uncancelled) (fail f)
  | log (e : Log.Event) {d d' : Dialogue α} (h : Unsignalled d d') :
    Unsignalled (log e d) (log e d')
  | call {r : Request} (hr : r.signalled = false) {next next' : Delivery → Dialogue α}
    (h : ∀ reply aborted, Unsignalled (next ⟨reply, false⟩) (next' ⟨reply, aborted⟩)) :
    Unsignalled (call r next) (call r.withSignal next')

theorem Unsignalled.bind {d d' : Dialogue α} (h : Unsignalled d d') {k k' : α → Dialogue β}
    (hk : ∀ a, Unsignalled (k a) (k' a)) : Unsignalled (d >>= k) (d' >>= k') := by
  induction h with
  | done a => exact hk a
  | fail f => exact .fail f
  | log e _ ih => exact .log e ih
  | call hr _ ih => exact .call hr ih

/-- A call asks for the signal only when it has already failed. -/
theorem unsignalled_exchange {r : Request} (hr : r.signalled = false) :
    Unsignalled (exchange r) (exchange r.withSignal) := by
  refine .log _ (.call hr fun reply aborted => ?_)
  cases reply with
  | nothing cause => exact .fail (.unanswered r.label r.endpoint aborted cause)
  | brokenBody status cause => exact .fail (.unreadable r.label r.endpoint aborted status cause)
  | body status text =>
    refine .log _ ?_
    show Unsignalled (if status = Status.ok then _ else _) (if status = Status.ok then _ else _)
    split_ifs with hstatus
    · exact .done text
    · exact .fail (.badStatus r.label r.endpoint status text)

theorem Unsignalled.run {d d' : Dialogue α} (h : Unsignalled d d') {script script' : Script}
    (hnone : script.signal = .none) (hsame : ∀ n, script.reply n = script'.reply n) :
    (d.run script).Unsignalled (d'.run script') := by
  induction h generalizing script script' with
  | done a => exact ⟨rfl, by simp [Dialogue.run], rfl, rfl⟩
  | fail f => exact ⟨rfl, by simp [Dialogue.run], rfl, rfl⟩
  | log e _ ih =>
    obtain ⟨hrequests, hplain, hlog, houtcome⟩ := ih hnone hsame
    exact ⟨hrequests, hplain, congrArg (e :: ·) hlog, houtcome⟩
  | @call r hr next next' _ ih =>
    obtain ⟨hanswer, hrest⟩ := Script.answer_of_signal_none hnone
    have hreply : script'.answer.1.reply = script.reply 0 := by
      rw [Script.reply_answer, hsame]
    have hbehind : ∀ n, script.rest.reply n = script'.rest.reply n := by
      intro n
      rw [Script.reply_rest, Script.reply_rest, hsame]
    have hnext := ih (script.reply 0) script'.answer.1.aborted hrest hbehind
    rw [← hanswer, ← hreply] at hnext
    obtain ⟨hrequests, hplain, hlog, houtcome⟩ := hnext
    refine ⟨?_, ?_, hlog, houtcome⟩
    · exact congrArg (r.withSignal :: ·) hrequests
    · exact List.forall_mem_cons.mpr ⟨hr, hplain⟩

end Dialogue

end ZoneKeeper
