import Mathlib
import ZoneKeeper.Proofs.Api.Log
import ZoneKeeper.Proofs.Update.Gate

namespace ZoneKeeper.Update
open Envelope

/-- What an update writes when it comes to its end. -/
inductive Closes (ip : Text) : Except Failure Text → List Log.Entry → Prop
  | updated : Closes ip (.ok ip) [⟨.info, none, [("ip", .string ip)], "A record updated"⟩]
  | refused {f : Failure} {e : Endpoint} {body : Option Text}
    (hkind : f.kind = .reconciliation e body) (details : Members) (message : Text) :
    Closes ip (.error f) [⟨.warn, some e, details, message⟩]
  | failed {f : Failure} (hkind : ∀ e body, f.kind ≠ .reconciliation e body) :
    Closes ip (.error f) []

/-- A judgement on a body warns of what it refuses, and writes nothing else. -/
inductive Warns {α : Type} (e : Endpoint) (body : Text) : Dialogue α → Prop
  | passed (a : α) : Warns e body (.done a)
  | undecodable (r : Json.Rejection Fault) : Warns e body (.fail (.undecodable e body r))
  | refused {event : Log.Event} (hlevel : event.level = .warn) (hplace : event.endpoint? = some e)
    (r : Refusal) : Warns e body (.failWith event (.refused e body r))

theorem warns_recordsOf (target body : Text) (e : Envelope Zone) :
    Warns .getData body (recordsOf target body e) := by
  rcases recordsOf_cases target body e with ⟨records, rfl⟩ | ⟨event, r, hrefuse, -, hlevel, hplace⟩
  · rw [recordsOf_cleared]
    exact .passed records
  · rw [hrefuse]
    exact .refused hlevel hplace r

theorem warns_zoneOf (target body : Text) : Warns .getData body (zoneOf target body) := by
  cases hd : decodeZone body with
  | error r =>
    rw [zoneOf_of_error target hd]
    exact .undecodable r
  | ok e =>
    rw [zoneOf_of_ok target hd]
    exact warns_recordsOf target body e

theorem warns_confirm (body : Text) : Warns .changeRecords body (confirm body) := by
  cases hd : decodeChange body with
  | error r =>
    rw [confirm_of_error hd]
    exact .undecodable r
  | ok e =>
    rw [confirm_of_ok hd]
    split_ifs
    · exact .passed ()
    · exact .refused rfl rfl _

section Closing
variable {ip : Text} {outcome : Except Failure Text} {closing : List Log.Entry}

theorem Closes.info_le (h : Closes ip outcome closing) :
    ∀ x ∈ closing, Log.Level.info.rank ≤ x.level.rank := by
  cases h with
  | updated => simp
  | refused => simp [Log.Level.rank]
  | failed => simp

theorem Closes.exists_warn_iff (h : Closes ip outcome closing) :
    (∃ x ∈ closing, x.level = .warn) ↔
      ∃ f e body, outcome = .error f ∧ f.kind = .reconciliation e body := by
  cases h with
  | updated => simp
  | @refused f e body hkind => exact iff_of_true (by simp) ⟨f, e, body, rfl, hkind⟩
  | @failed f hkind => simp [hkind]

theorem Closes.exists_info_iff (h : Closes ip outcome closing) :
    (∃ x ∈ closing, x.level = .info) ↔ ∃ x, outcome = .ok x := by
  cases h <;> simp

end Closing

section Stages
variable {ip : Text}

theorem closes_of_transport (f : Failure) (e : Endpoint) (details : Report.Transport)
    (h : f.kind = .transport e details) : Closes ip (.error f) [] := by
  refine .failed fun e' body hkind => ?_
  exact Report.Kind.noConfusion (h.symm.trans hkind)

theorem Warns.tells {α : Type} {e : Endpoint} {body : Text} {d : Dialogue α} (h : Warns e body d)
    (k : α → Dialogue Text) (script : Script)
    (hk : ∀ a, ((k a).run script).Tells (Closes ip) script) :
    ((d >>= k).run script).Tells (Closes ip) script := by
  cases h with
  | passed a => exact hk a
  | undecodable r =>
    obtain ⟨cause, hdecoding⟩ := kind_undecodable e body r
    refine ⟨[], .failed fun e' body' hkind => ?_, rfl⟩
    exact Report.Kind.noConfusion (hdecoding.symm.trans hkind)
  | @refused event hlevel hplace r =>
    refine ⟨[⟨.warn, some e, event.details, event.message⟩], .refused rfl _ _, ?_⟩
    rw [← hlevel, ← hplace]
    rfl

theorem tells_finish (s : Settings) (signalled : Bool) (records : Members) (script : Script) :
    ((finish s ip signalled records).run script).Tells (Closes ip) script := by
  refine Dialogue.tells_exchange_bind closes_of_transport _ _ script fun text => ?_
  refine (warns_confirm text).tells _ script.rest fun _ => ?_
  exact ⟨_, .updated, rfl⟩

/-- Call by call, the log of an update tells what was asked and what came of it. -/
theorem tells_reconcile (s : Settings) (ip : Text) (script : Script) :
    (runReconcile s ip script).Tells (Closes ip) script := by
  rw [runReconcile, reconcile_eq]
  refine Dialogue.tells_exchange_bind closes_of_transport _ _ script fun text => ?_
  refine (warns_zoneOf s.target text).tells _ script.rest fun records => ?_
  exact tells_finish s _ records script.rest

end Stages

/-- What the log of an update tells. With every level written, it has an entry for each call in
order, and right behind it one with the status if the body of the answer was read. Behind all of
them there is a warning about the call if the update was refused, a note of the address if it was
done, and nothing otherwise. A log of another level has the entries of its level and above in the
same order, whether they are dropped when they come up or at the end. -/
theorem log_tells_outcome (s : Settings) (ip : Text) (script : Script) :
    let t := runReconcile s ip script
    let written := fun level => Log.keep level t.log
    (∃ closing, Closes ip t.outcome closing ∧
      (written .debug).map Log.Event.said = script.entries t.requests ++ closing ∧
      (written .info).map Log.Event.said = closing) ∧
    ((∃ e ∈ written .debug, e.level = .warn) ↔
      ∃ f e body, t.outcome = .error f ∧ f.kind = .reconciliation e body) ∧
    ((∃ e ∈ written .debug, e.level = .info) ↔ ∃ x, t.outcome = .ok x) ∧
    ∀ level : Log.Level,
      written level = (written .debug).filter (fun e => level.rank ≤ e.level.rank) ∧
      ((reconcile s ip script.signal.isGiven).atLevel level).run script =
        { t with log := written level } := by
  intro t written
  obtain ⟨closing, hcloses, hlog⟩ : t.Tells (Closes ip) script := tells_reconcile s ip script
  have hdebug : written .debug = t.log := Log.keep_debug t.log
  rw [hdebug]
  refine ⟨⟨closing, hcloses, hlog, Log.map_said_keep_info hlog hcloses.info_le⟩, ?_, ?_, ?_⟩
  · exact (Log.exists_level_iff hlog (by decide)).trans hcloses.exists_warn_iff
  · exact (Log.exists_level_iff hlog (by decide)).trans hcloses.exists_info_iff
  · intro level
    exact ⟨rfl, Dialogue.run_atLevel level _ script⟩

end ZoneKeeper.Update
