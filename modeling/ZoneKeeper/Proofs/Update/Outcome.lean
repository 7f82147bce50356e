import Mathlib
import ZoneKeeper.Proofs.Ipv4
import ZoneKeeper.Proofs.Update.Gate
import ZoneKeeper.Provider

namespace ZoneKeeper.Update
open Envelope

def Completes (target : Text) (script : Script) : Prop :=
  Gives (Passes target .getData) (script.reply 0) ∧
    Gives (Passes target .changeRecords) (script.reply 1)

/-- A run that ended with a failure which the reply to its last request tells. -/
structure FailsByLast (target : Text) (t : Transcript Text) (f : Failure) (e : Endpoint)
    (reply : Reply) : Prop where
  outcome : t.outcome = .error f
  last : t.requests.getLast?.map Request.endpoint = some e
  ends : Ends target e reply f.kind

section Run
variable (s : Settings) (ip : Text) (script : Script)

theorem run_update_of_no_address (h : ∀ a : Ipv4, ip.trim ≠ a.toText) :
    runUpdate s ip script = ⟨[], [], .error (.noAddress ip)⟩ := by
  have hread : Ipv4.read? ip = none := Ipv4.read?_eq_none_iff.mpr h
  simp only [runUpdate, update, canonical, hread]
  rfl

theorem run_update_of_address {a : Ipv4} (h : ip.trim = a.toText) :
    runUpdate s ip script = runReconcile s a.toText script := by
  have hread : Ipv4.read? ip = some a := Ipv4.read?_eq_some_iff.mpr h
  simp only [runUpdate, update, canonical, hread]
  rfl

/-- An update of an address that can be written ends in one of two ways. -/
theorem reconcile_outcome {t : Transcript Text} (ht : runReconcile s ip script = t) :
    Completes s.target script ∧ t.outcome = .ok ip ∨
      ¬ Completes s.target script ∧
        ∃ f e, FailsByLast s.target t f e (script.reply (t.requests.length - 1)) := by
  rcases run_reconcile s ip script ht with ⟨records, hg, rfl⟩ | ⟨hr, f, ho, hends⟩
  · obtain ⟨hr, hfinish⟩ := run_finish s ip script.signal.isGiven records script.rest rfl
    rw [Script.reply_rest] at hfinish
    rcases hfinish with ⟨hconfirm, ho⟩ | ⟨f, ho, hends⟩
    · exact Or.inl ⟨⟨hg.passes, hconfirm⟩, ho⟩
    -- Reading passed, so the failure is told by the reply to writing.
    · right
      refine ⟨fun hc => hends.not_gives hc.2, f, .changeRecords, ho, ?_, ?_⟩
      · simp [Transcript.after, hr, writeCall, call]
      · simpa [Transcript.after, hr] using hends
  · right
    refine ⟨fun hc => hends.not_gives hc.1, f, .getData, ho, ?_, ?_⟩
    · simp [hr, readCall, call]
    · simpa [hr] using hends

end Run

/-- How an update ends. A text that is no address is refused before anything is sent or logged. With
an address, the update comes to the address itself if and only if both replies let it go on, and
else to the one error that the last reply tells. -/
theorem update_outcome (p : Provider) (ip : Text) (script : Script) :
    let t := (p.update ip script.signal.isGiven).run script
    let target := p.settings.target
    ((∀ a : Ipv4, ip.trim ≠ a.toText) →
      t.requests = [] ∧ t.log = [] ∧ ∃ f, t.outcome = .error f ∧ f.kind = .range) ∧
    ∀ a : Ipv4, ip.trim = a.toText →
      (∀ x, t.outcome = .ok x ↔ Completes target script ∧ x = a.toText) ∧
      (¬ Completes target script → ∃ f e reply, t.outcome = .error f ∧
        t.requests.getLast?.map Request.endpoint = some e ∧
        reply = script.reply (t.requests.length - 1) ∧
        Ends target e reply f.kind ∧ f.kind.endpoint? = some e ∧
        ∀ status body, reply = .body status body → f.kind.body? = some body) := by
  intro t target
  constructor
  · intro hno
    have ht : t = ⟨[], [], .error (.noAddress ip)⟩ :=
      run_update_of_no_address p.settings ip script hno
    rw [ht]
    exact ⟨rfl, rfl, _, rfl, rfl⟩
  · intro a ha
    have ht : runReconcile p.settings a.toText script = t :=
      (run_update_of_address p.settings ip script ha).symm
    -- Either both replies let the update go on, or the last one tells the error.
    rcases reconcile_outcome p.settings a.toText script ht with ⟨hc, ho⟩ | ⟨hc, f, e, hf⟩
    · refine ⟨fun x => ?_, fun hnot => absurd hc hnot⟩
      rw [ho, Except.ok.injEq]
      exact ⟨fun hx => ⟨hc, hx.symm⟩, fun hx => hx.2.symm⟩
    · refine ⟨fun x => ?_, fun _ => ?_⟩
      · rw [hf.outcome]
        constructor
        · intro hx
          exact absurd hx (by simp)
        · intro hx
          exact absurd hx.1 hc
      · refine ⟨f, e, _, hf.outcome, hf.last, rfl, hf.ends, hf.ends.endpoint?_eq, ?_⟩
        intro status body hreply
        have hends := hf.ends
        rw [hreply] at hends
        exact hends.body?_eq

end ZoneKeeper.Update
