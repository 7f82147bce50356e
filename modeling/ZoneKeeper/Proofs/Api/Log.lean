import Mathlib
import ZoneKeeper.Proofs.Api.Dialogue

namespace ZoneKeeper

namespace Log

structure Entry where
  level : Level
  endpoint : Option Endpoint
  details : Members
  message : Text

def Event.said (e : Event) : Entry := ⟨e.level, e.endpoint?, e.details, e.message⟩

/-- What a call writes, by the reply to it. The status does not matter, only that the body could be
read. -/
def callEntries (r : Request) : Reply → List Entry
  | .body status _ =>
    [⟨.debug, some r.endpoint, [], "calling provider API"⟩,
      ⟨.debug, some r.endpoint, [("status", .ofDouble status)], "provider API answered"⟩]
  | .brokenBody _ _ | .nothing _ => [⟨.debug, some r.endpoint, [], "calling provider API"⟩]

theorem level_callEntries (r : Request) (reply : Reply) :
    ∀ x ∈ callEntries r reply, x.level = .debug := by
  cases reply <;> simp [callEntries]

theorem map_said_keep (level : Level) (events : List Event) :
    (keep level events).map Event.said =
      (events.map Event.said).filter fun x => level.rank ≤ x.level.rank := by
  rw [keep, List.filter_map]
  rfl

theorem keep_debug (events : List Event) : keep .debug events = events := by
  apply List.filter_eq_self.mpr
  intro e _
  cases e <;> rfl

end Log

namespace Script

def entries (s : Script) (requests : List Request) : List Log.Entry :=
  (requests.mapIdx fun n r => Log.callEntries r (s.reply n)).flatten

theorem entries_nil (s : Script) : s.entries [] = [] := rfl

theorem entries_cons (s : Script) (r : Request) (requests : List Request) :
    s.entries (r :: requests) = Log.callEntries r (s.reply 0) ++ s.rest.entries requests := by
  simp only [entries, List.mapIdx_cons, List.flatten_cons, reply_rest]

theorem level_entries (s : Script) (requests : List Request) :
    ∀ x ∈ s.entries requests, x.level = .debug := by
  induction requests generalizing s with
  | nil => simp [entries_nil]
  | cons r requests ih =>
    rw [entries_cons]
    exact List.forall_mem_append.mpr ⟨Log.level_callEntries r _, ih s.rest⟩

end Script

/-- The log has the entries of the calls, and behind them those that `closes` asks for by the
outcome. -/
def Transcript.Tells {α : Type} (closes : Except Failure α → List Log.Entry → Prop) (s : Script)
    (t : Transcript α) : Prop :=
  ∃ closing, closes t.outcome closing ∧
    t.log.map Log.Event.said = s.entries t.requests ++ closing

section Levels
variable {s : Script} {requests : List Request} {events : List Log.Event} {closing : List Log.Entry}
  (hlog : events.map Log.Event.said = s.entries requests ++ closing)
include hlog

theorem Log.exists_level_iff {level : Log.Level} (hlevel : level ≠ .debug) :
    (∃ e ∈ events, e.level = level) ↔ ∃ x ∈ closing, x.level = level := by
  have hsaid : (∃ e ∈ events, e.level = level) ↔
      ∃ x ∈ events.map Log.Event.said, x.level = level := by
    simp only [List.mem_map, exists_exists_and_eq_and]
    rfl
  rw [hsaid, hlog]
  constructor
  · rintro ⟨x, hx, rfl⟩
    refine ⟨x, (List.mem_append.mp hx).resolve_left fun hx => ?_, rfl⟩
    exact hlevel (s.level_entries requests x hx)
  · rintro ⟨x, hx, rfl⟩
    exact ⟨x, List.mem_append_right _ hx, rfl⟩

theorem Log.map_said_keep_info
    (hclosing : ∀ x ∈ closing, Log.Level.info.rank ≤ x.level.rank) :
    (Log.keep .info events).map Log.Event.said = closing := by
  have hentries : (s.entries requests).filter
      (fun x => Log.Level.info.rank ≤ x.level.rank) = [] := by
    apply List.filter_eq_nil_iff.mpr
    intro x hx
    rw [s.level_entries requests x hx]
    decide
  have hself : closing.filter (fun x => Log.Level.info.rank ≤ x.level.rank) = closing := by
    apply List.filter_eq_self.mpr
    intro x hx
    exact decide_eq_true (hclosing x hx)
  rw [Log.map_said_keep, hlog, List.filter_append, hentries, hself, List.nil_append]

end Levels

namespace Dialogue

section Calls
variable {α : Type} {closes : Except Failure α → List Log.Entry → Prop}

/-- A call writes its own entries, and the work after it goes on with the log. Nothing is written of
a failure of the call itself. -/
theorem tells_exchange_bind
    (htransport : ∀ f e details, f.kind = .transport e details → closes (.error f) [])
    (r : Request) (k : Text → Dialogue α) (s : Script)
    (hk : ∀ text, ((k text).run s.rest).Tells closes s.rest) :
    ((exchange r >>= k).run s).Tells closes s := by
  rw [run_exchange_bind]
  cases hreply : s.reply 0 with
  | nothing cause =>
    refine ⟨[], htransport _ _ _ rfl, ?_⟩
    rw [Script.entries_cons, hreply]
    rfl
  | brokenBody status cause =>
    refine ⟨[], htransport _ _ _ rfl, ?_⟩
    rw [Script.entries_cons, hreply]
    rfl
  | body status text =>
    show Transcript.Tells closes s (if status = Status.ok then _ else _)
    split_ifs with hstatus
    · obtain ⟨closing, hcloses, hlog⟩ := hk text
      refine ⟨closing, hcloses, ?_⟩
      rw [Transcript.after, Script.entries_cons, hreply, List.append_assoc, ← hlog]
      rfl
    · refine ⟨[], htransport _ _ _ rfl, ?_⟩
      rw [Script.entries_cons, hreply]
      rfl

end Calls

/-- The same work with a log that drops an entry below its level at once. -/
def atLevel {α : Type} (level : Log.Level) : Dialogue α → Dialogue α
  | done a => done a
  | fail f => fail f
  | log e next =>
    if level.rank ≤ e.level.rank then log e (next.atLevel level) else next.atLevel level
  | call r next => call r fun d => (next d).atLevel level

theorem run_atLevel {α : Type} (level : Log.Level) (d : Dialogue α) (s : Script) :
    (d.atLevel level).run s = { d.run s with log := Log.keep level (d.run s).log } := by
  induction d generalizing s with
  | done a => rfl
  | fail f => rfl
  | log e next ih =>
    rw [atLevel]
    split_ifs with hlevel
    · simp [run, ih, Log.keep, hlevel]
    · simp [run, ih, Log.keep, hlevel]
  | call r next ih => simp only [atLevel, run, ih]

end Dialogue

end ZoneKeeper
