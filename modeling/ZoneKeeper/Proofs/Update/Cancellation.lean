import Mathlib
import ZoneKeeper.Proofs.Api.Cancellation
import ZoneKeeper.Proofs.Update.Gate

namespace ZoneKeeper.Update
open Envelope

theorem Judged.unsignalled {α : Type} {e : Endpoint} {passes : α → Json → Prop} {body : Text}
    {d : Dialogue α} (h : Judged e passes body d) : d.Unsignalled d := by
  cases h with
  | passed => exact .done _
  | undecodable h r => exact .fail (.undecodable e body r)
  | refused hshape h event r => exact .log event (.fail (.refused e body r))

section Signals
variable (s : Settings) (ip : Text)

theorem unsignalled_finish (records : Members) :
    (finish s ip false records).Unsignalled (finish s ip true records) := by
  have hcall : (Dialogue.exchange (writeCall s records ip false)).Unsignalled
      (Dialogue.exchange (writeCall s records ip true)) :=
    Dialogue.unsignalled_exchange rfl
  refine hcall.bind fun body => ?_
  exact (judged_confirm body).unsignalled.bind fun _ => .log (.updated ip) (.done ip)

theorem unsignalled_reconcile : (reconcile s ip false).Unsignalled (reconcile s ip true) := by
  have hcall : (Dialogue.exchange (readCall s false)).Unsignalled
      (Dialogue.exchange (readCall s true)) :=
    Dialogue.unsignalled_exchange rfl
  rw [reconcile_eq, reconcile_eq]
  refine hcall.bind fun body => ?_
  exact (judged_zoneOf s.target body).unsignalled.bind (unsignalled_finish s ip)

/-- The signal only labels failures. An update with a signal, be it aborted before or at any point
of any call, sends the requests of the update without one, each with the signal on it, and logs the
same. Both come to the same address, or both fail with the same facts: what can differ is the mark
of a failure as cancelled, and the wording for a call that got no answer. -/
theorem signal_only_labels {script script' : Script} (hnone : script.signal = .none)
    (hgiven : script'.signal ≠ .none) (hsame : ∀ n, script.reply n = script'.reply n) :
    let t := runReconcile s ip script
    let t' := runReconcile s ip script'
    t'.requests = t.requests.map (fun r => { r with signalled := true }) ∧
    (∀ r ∈ t.requests, r.signalled = false) ∧
    t'.log = t.log ∧
    ((∃ a, t.outcome = .ok a ∧ t'.outcome = .ok a) ∨
      ∃ f f', t.outcome = .error f ∧ t'.outcome = .error f' ∧
        f.kind = f'.kind.uncancelled ∧ Failure.Reworded f.message f'.message) := by
  intro t t'
  have hplain : t = (reconcile s ip false).run script := by
    simp [t, runReconcile, hnone, Signal.isGiven]
  have hsignalled : t' = (reconcile s ip true).run script' := by
    simp [t', runReconcile, hgiven, Signal.isGiven]
  have hrun : t.Unsignalled t' := by
    rw [hplain, hsignalled]
    exact (unsignalled_reconcile s ip).run hnone hsame
  exact ⟨hrun.requests, hrun.plain, hrun.log, hrun.ending⟩

end Signals

/-- The signal is aborted while the body of the answer to reading is read, which succeeds; the call
that writes then gets no answer. -/
theorem signal_only_labels_between_calls :
    let s : Settings := ⟨"example.com", "www.example.com", "www", "me", "pw", .ofNat 10⟩
    let read : Reply := .body Status.ok
      (toJson zoneJson (cleared "www.example.com" [("TXT", .string "kept")])).write
    let script : Script := ⟨[⟨none, read⟩, ⟨none, .nothing Script.noResponse⟩], .none⟩
    let script' : Script := ⟨[⟨some .body, read⟩], .live⟩
    let t := runReconcile s "192.0.2.7" script
    let t' := runReconcile s "192.0.2.7" script'
    (script.signal = .none ∧ script'.signal ≠ .none ∧ ∀ n, script.reply n = script'.reply n) ∧
    t'.requests = t.requests.map (fun r => { r with signalled := true }) ∧
    (∀ r ∈ t.requests, r.signalled = false) ∧
    t'.log = t.log ∧
    ((∃ a, t.outcome = .ok a ∧ t'.outcome = .ok a) ∨
      ∃ f f', t.outcome = .error f ∧ t'.outcome = .error f' ∧
        f.kind = f'.kind.uncancelled ∧ Failure.Reworded f.message f'.message) := by
  intro s read script script' t t'
  have hgiven : script'.signal ≠ .none := by decide
  have hsame : ∀ n, script.reply n = script'.reply n := by
    intro n
    match n with
    | 0 => rfl
    | 1 => rfl
    | n + 2 => rfl
  exact ⟨⟨rfl, hgiven, hsame⟩, signal_only_labels s "192.0.2.7" rfl hgiven hsame⟩

end ZoneKeeper.Update
