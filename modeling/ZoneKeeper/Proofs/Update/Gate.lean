import Mathlib
import ZoneKeeper.Proofs.Api.Dialogue
import ZoneKeeper.Proofs.Envelope.Gate
import ZoneKeeper.Proofs.Update.Request
import ZoneKeeper.Update.Run

namespace ZoneKeeper.Update
open Envelope

/-- What becomes of the body of an answer: it passes, has the wrong shape or is refused. -/
inductive Judged {α : Type} (e : Endpoint) (passes : α → Json → Prop) (body : Text) :
    Dialogue α → Prop
  | passed {a : α} (h : Spells (passes a) body) : Judged e passes body (.done a)
  | undecodable (h : ¬ Spells (ShapeOf e) body) (r : Json.Rejection Fault) :
    Judged e passes body (.fail (.undecodable e body r))
  | refused (hshape : Spells (ShapeOf e) body) (h : ∀ a, ¬ Spells (passes a) body)
    (event : Log.Event) (r : Refusal) :
    Judged e passes body (.failWith event (.refused e body r))

def zoneOf (target body : Text) : Dialogue Members := do
  recordsOf target body (← decoded .getData body (decodeZone body))

def confirm (body : Text) : Dialogue Unit := do
  let e ← decoded .changeRecords body (decodeChange body)
  if e.succeeded then .done ()
  else .failWith (.notSuccessful .changeRecords) (.refused .changeRecords body .notSuccessful)

section Bodies
variable {body : Text} {r : Json.Rejection Fault}

theorem zoneOf_of_error (target : Text) (h : decodeZone body = .error r) :
    zoneOf target body = .fail (.undecodable .getData body r) := by
  rw [zoneOf, decoded, h]
  rfl

theorem zoneOf_of_ok (target : Text) {e : Envelope Zone} (h : decodeZone body = .ok e) :
    zoneOf target body = recordsOf target body e := by
  rw [zoneOf, decoded, h]
  rfl

theorem confirm_of_error (h : decodeChange body = .error r) :
    confirm body = .fail (.undecodable .changeRecords body r) := by
  rw [confirm, decoded, h]
  rfl

theorem confirm_of_ok {e : Envelope Json} (h : decodeChange body = .ok e) :
    confirm body = if e.succeeded then .done ()
      else .failWith (.notSuccessful .changeRecords)
        (.refused .changeRecords body .notSuccessful) := by
  rw [confirm, decoded, h]
  rfl

end Bodies

theorem recordsOf_cleared (target body : Text) (records : Members) :
    recordsOf target body (cleared target records) = .done records := by
  simp [recordsOf, cleared, succeeded]

/-- Why the records of an envelope are not taken. -/
inductive Refuses (target : Text) (e : Envelope Zone) : Refusal → Prop
  | notSuccessful (h : e.succeeded = false) : Refuses target e .notSuccessful
  | otherName (h : e.succeeded = true) (hname : e.answered? ≠ some target) :
    Refuses target e (.otherName e.answered? target)
  | noRecordSet (h : e.succeeded = true) (hname : e.answered? = some target) :
    Refuses target e (.noRecordSet target)

theorem recordsOf_cases (target body : Text) (e : Envelope Zone) :
    (∃ records, e = cleared target records) ∨
    ∃ event r, recordsOf target body e = .failWith event (.refused .getData body r) ∧
      Refuses target e r ∧ event.level = .warn ∧ event.endpoint? = some .getData := by
  unfold recordsOf
  split_ifs with hs
  · obtain ⟨slot, rfl⟩ := (succeeded_iff e).mp hs
    cases slot with
    | absent => exact Or.inr ⟨_, _, rfl, .otherName hs (by simp [answered?]), rfl, rfl⟩
    | null => exact Or.inr ⟨_, _, rfl, .otherName hs (by simp [answered?]), rfl, rfl⟩
    | value zone =>
      obtain ⟨fqdn, records⟩ := zone
      dsimp only
      split_ifs with hname
      · subst hname
        cases records with
        | value records => exact Or.inl ⟨records, rfl⟩
        | absent => exact Or.inr ⟨_, _, rfl, .noRecordSet hs rfl, rfl, rfl⟩
        | null => exact Or.inr ⟨_, _, rfl, .noRecordSet hs rfl, rfl, rfl⟩
      · exact Or.inr ⟨_, _, rfl, .otherName hs hname, rfl, rfl⟩
  · exact Or.inr ⟨_, _, rfl, .notSuccessful (by simpa using hs), rfl, rfl⟩

theorem zoneOf_of_clears {target body : Text} {records : Members}
    (h : Spells (Clears target records) body) : zoneOf target body = .done records := by
  obtain ⟨v, hv, hc⟩ := h
  have hcanonical := Json.canonical_of_read? hv
  have hd : decodeZone body = .ok (cleared target records) :=
    decode_eq_ok_iff.mpr ⟨v, hv, (clears_iff hcanonical).mpr hc⟩
  rw [zoneOf_of_ok target hd, recordsOf_cleared]

theorem confirm_of_confirms {body : Text} (h : Spells Confirms body) : confirm body = .done () := by
  obtain ⟨v, hv, hc⟩ := h
  obtain ⟨slot, hread⟩ := (confirms_iff (Json.canonical_of_read? hv)).mpr hc
  have hd := decode_eq_ok_iff.mpr ⟨v, hv, hread⟩
  rw [confirm_of_ok hd]
  rfl

/-- The judgement on reading passes exactly the bodies that clear the write. -/
theorem judged_zoneOf (target body : Text) :
    Judged .getData (Clears target) body (zoneOf target body) := by
  by_cases hp : ∃ records, Spells (Clears target records) body
  · obtain ⟨records, h⟩ := hp
    rw [zoneOf_of_clears h]
    exact .passed h
  · cases hd : decodeZone body with
    | error r =>
      rw [zoneOf_of_error target hd]
      refine .undecodable (fun hs => ?_) r
      obtain ⟨e, he⟩ := decodeZone_ok_iff.mpr hs
      rw [hd] at he
      exact absurd he (by simp)
    | ok e =>
      have hshape : Spells (ShapeOf .getData) body := decodeZone_ok_iff.mp ⟨e, hd⟩
      have hne : ∀ records, e ≠ cleared target records := by
        intro records he
        obtain ⟨v, hv, hread⟩ := decode_eq_ok_iff.mp hd
        rw [he] at hread
        exact hp ⟨records, v, hv, (clears_iff (Json.canonical_of_read? hv)).mp hread⟩
      rw [zoneOf_of_ok target hd]
      rcases recordsOf_cases target body e with ⟨records, he⟩ | ⟨event, r, hrefuse, -⟩
      · exact absurd he (hne records)
      · rw [hrefuse]
        exact .refused hshape (fun records h => hp ⟨records, h⟩) event r

/-- The judgement on writing passes exactly the bodies that confirm the change. -/
theorem judged_confirm (body : Text) :
    Judged .changeRecords (fun _ => Confirms) body (confirm body) := by
  by_cases hp : Spells Confirms body
  · rw [confirm_of_confirms hp]
    exact .passed hp
  · cases hd : decodeChange body with
    | error r =>
      rw [confirm_of_error hd]
      refine .undecodable (fun hs => ?_) r
      obtain ⟨e, he⟩ := decodeChange_ok_iff.mpr hs
      rw [hd] at he
      exact absurd he (by simp)
    | ok e =>
      have hshape : Spells (ShapeOf .changeRecords) body := decodeChange_ok_iff.mp ⟨e, hd⟩
      have hfail : ¬ e.succeeded = true := by
        intro hs
        obtain ⟨slot, he⟩ := (succeeded_iff e).mp hs
        obtain ⟨v, hv, hread⟩ := decode_eq_ok_iff.mp hd
        rw [he] at hread
        exact hp ⟨v, hv, (confirms_iff (Json.canonical_of_read? hv)).mp ⟨slot, hread⟩⟩
      rw [confirm_of_ok hd, if_neg hfail]
      exact .refused hshape (fun _ => hp) _ _

def readCall (s : Settings) (signalled : Bool) : Request :=
  call s .getData (.object [("fqdn", .string s.target)]) signalled

def change (s : Settings) (records : Members) (ip : Text) : Json :=
  .object [("fqdn", .string s.target),
    ("records", .object (RecordSet.withAddress records s.priority ip))]

def writeCall (s : Settings) (records : Members) (ip : Text) (signalled : Bool) : Request :=
  call s .changeRecords (change s records ip) signalled

def finish (s : Settings) (ip : Text) (signalled : Bool) (records : Members) : Dialogue Text := do
  confirm (← Dialogue.exchange (writeCall s records ip signalled))
  Dialogue.note (.updated ip)
  return ip

theorem reconcile_eq (s : Settings) (ip : Text) (signalled : Bool) :
    reconcile s ip signalled =
      Dialogue.exchange (readCall s signalled) >>= fun body =>
        zoneOf s.target body >>= fun records => finish s ip signalled records := by
  simp only [reconcile, readRecords, writeRecords, exchange, zoneOf, finish, confirm, request_eq,
    Dialogue.ofExcept_ok_bind, bind_assoc]
  rfl

/-- The reply is a success whose body spells a value of the given shape. -/
def Gives (shape : Json → Prop) (reply : Reply) : Prop :=
  ∃ body, reply = .body Status.ok body ∧ Spells shape body

/-- The kind of error that a reply leads to which does not let the update go on. The body goes into
the error whenever it was read. -/
inductive Ends (target : Text) (e : Endpoint) : Reply → Report.Kind → Prop
  | unanswered (cause : Thrown) (cancelled : Bool) :
    Ends target e (.nothing cause) (.transport e ⟨cancelled, none, none, some (.thrown cause)⟩)
  | unreadable (status : Status) (cause : Thrown) (cancelled : Bool) :
    Ends target e (.brokenBody status cause)
      (.transport e ⟨cancelled, some status, none, some (.thrown cause)⟩)
  | badStatus {status : Status} (h : status ≠ Status.ok) (body : Text) :
    Ends target e (.body status body) (.transport e ⟨false, some status, some body, none⟩)
  | undecodable {body : Text} (h : ¬ Spells (ShapeOf e) body) (cause : Option Cause) :
    Ends target e (.body Status.ok body) (.decoding e (some body) cause)
  | refused {body : Text} (hshape : Spells (ShapeOf e) body) (h : ¬ Spells (Passes target e) body) :
    Ends target e (.body Status.ok body) (.reconciliation e (some body))

namespace Ends
variable {target : Text} {e : Endpoint} {reply : Reply} {kind : Report.Kind}

theorem not_gives (h : Ends target e reply kind) : ¬ Gives (Passes target e) reply := by
  intro hg
  obtain ⟨body, hbody, v, hv, hp⟩ := hg
  cases h with
  | unanswered => exact Reply.noConfusion hbody
  | unreadable => exact Reply.noConfusion hbody
  | badStatus h => exact h (Reply.body.inj hbody).1
  | undecodable h =>
    obtain ⟨-, rfl⟩ := Reply.body.inj hbody
    exact h ⟨v, hv, hp.shapeOf⟩
  | refused _ h =>
    obtain ⟨-, rfl⟩ := Reply.body.inj hbody
    exact h ⟨v, hv, hp⟩

theorem endpoint?_eq (h : Ends target e reply kind) : kind.endpoint? = some e := by
  cases h <;> rfl

theorem body?_eq {status : Status} {body : Text} (h : Ends target e (.body status body) kind) :
    kind.body? = some body := by
  cases h <;> rfl

end Ends

theorem kind_undecodable (e : Endpoint) (body : Text) (r : Json.Rejection Fault) :
    ∃ cause, (Failure.undecodable e body r).kind = .decoding e (some body) cause := by
  cases r with
  | noJson => exact ⟨_, rfl⟩
  | faults found => exact ⟨_, rfl⟩

section Stage
variable {α β : Type} (target : Text) {r : Request} {passes : α → Json → Prop}
  {judge : Text → Dialogue α}

/-- After a judgement the work goes on, or it ends without another call. -/
theorem Judged.run {e : Endpoint} {body : Text} {d : Dialogue α} (h : Judged e passes body d)
    (hpass : ∀ v, Passes target e v ↔ ∃ a, passes a v) (k : α → Dialogue β) (script : Script) :
    (∃ a, Spells (passes a) body ∧ d >>= k = k a) ∨
    (((d >>= k).run script).requests = [] ∧ ∃ f, ((d >>= k).run script).outcome = .error f ∧
      Ends target e (.body Status.ok body) f.kind) := by
  cases h with
  | passed h => exact Or.inl ⟨_, h, rfl⟩
  | undecodable h rejection =>
    obtain ⟨cause, hkind⟩ := kind_undecodable e body rejection
    refine Or.inr ⟨rfl, _, rfl, ?_⟩
    rw [hkind]
    exact .undecodable h cause
  | refused hshape h event refusal =>
    refine Or.inr ⟨rfl, _, rfl, .refused hshape ?_⟩
    intro hp
    obtain ⟨v, hv, hp⟩ := hp
    obtain ⟨a, ha⟩ := (hpass v).mp hp
    exact h a ⟨v, hv, ha⟩

/-- A call whose answer is judged either lets the work go on or is the last one. -/
theorem run_stage (hjudge : ∀ body, Judged r.endpoint passes body (judge body))
    (hpass : ∀ v, Passes target r.endpoint v ↔ ∃ a, passes a v) (k : α → Dialogue β)
    (script : Script) {t : Transcript β}
    (ht : (Dialogue.exchange r >>= fun body => judge body >>= k).run script = t) :
    (∃ a, Gives (passes a) (script.reply 0) ∧ t = ((k a).run script.rest).after r Status.ok) ∨
    (t.requests = [r] ∧
      ∃ f, t.outcome = .error f ∧ Ends target r.endpoint (script.reply 0) f.kind) := by
  rw [Dialogue.run_exchange_bind] at ht
  cases hreply : script.reply 0 with
  | nothing cause =>
    simp only [hreply] at ht
    subst ht
    exact Or.inr ⟨rfl, _, rfl, .unanswered cause _⟩
  | brokenBody status cause =>
    simp only [hreply] at ht
    subst ht
    exact Or.inr ⟨rfl, _, rfl, .unreadable status cause _⟩
  -- The body was read, so the status decides first and the judgement on the body after it.
  | body status text =>
    simp only [hreply] at ht
    split_ifs at ht with hstatus
    · subst hstatus
      rcases (hjudge text).run target hpass k script.rest with ⟨a, ha, hk⟩ | ⟨hr, f, ho, hends⟩
      · rw [hk] at ht
        exact Or.inl ⟨a, ⟨text, rfl, ha⟩, ht.symm⟩
      · subst ht
        exact Or.inr ⟨congrArg (r :: ·) hr, f, ho, hends⟩
    · subst ht
      exact Or.inr ⟨rfl, _, rfl, .badStatus hstatus text⟩

end Stage

variable (s : Settings) (ip : Text)

theorem run_reconcile (script : Script) {t : Transcript Text} (ht : runReconcile s ip script = t) :
    (∃ records, Gives (Clears s.target records) (script.reply 0) ∧
      t = ((finish s ip script.signal.isGiven records).run script.rest).after
        (readCall s script.signal.isGiven) Status.ok) ∨
    (t.requests = [readCall s script.signal.isGiven] ∧
      ∃ f, t.outcome = .error f ∧ Ends s.target .getData (script.reply 0) f.kind) := by
  rw [runReconcile, reconcile_eq] at ht
  exact run_stage s.target (r := readCall s script.signal.isGiven) (judged_zoneOf s.target)
    (fun v => Iff.rfl) _ script ht

theorem run_finish (signalled : Bool) (records : Members) (script : Script) {t : Transcript Text}
    (ht : (finish s ip signalled records).run script = t) :
    t.requests = [writeCall s records ip signalled] ∧
      (Gives Confirms (script.reply 0) ∧ t.outcome = .ok ip ∨
        ∃ f, t.outcome = .error f ∧ Ends s.target .changeRecords (script.reply 0) f.kind) := by
  have hstage := run_stage s.target (r := writeCall s records ip signalled)
    judged_confirm (fun v => ⟨fun h => ⟨(), h⟩, fun ⟨_, h⟩ => h⟩)
    (fun _ => Dialogue.log (.updated ip) (.done ip)) script ht
  rcases hstage with ⟨_, hg, rfl⟩ | ⟨hr, hf⟩
  · exact ⟨rfl, Or.inl ⟨hg, rfl⟩⟩
  · exact ⟨hr, Or.inr hf⟩

theorem Gives.passes {target : Text} {records : Members} {reply : Reply}
    (h : Gives (Clears target records) reply) : Gives (Passes target .getData) reply := by
  obtain ⟨body, hbody, v, hv, hc⟩ := h
  exact ⟨body, hbody, v, hv, records, hc⟩

theorem Gives.canonical {target : Text} {records : Members} {reply : Reply}
    (h : Gives (Clears target records) reply) : records.Canonical := by
  obtain ⟨body, -, v, hv, hc⟩ := h
  exact hc.canonical (Json.canonical_of_read? hv)

theorem Gives.unique {target : Text} {records records' : Members} {reply : Reply}
    (h : Gives (Clears target records) reply) (h' : Gives (Clears target records') reply) :
    records = records' := by
  obtain ⟨body, rfl, v, hv, hc⟩ := h
  obtain ⟨body', hbody, w, hw, hc'⟩ := h'
  obtain ⟨-, rfl⟩ := Reply.body.inj hbody
  obtain rfl : v = w := Option.some.inj (hv.symm.trans hw)
  exact hc.unique (Json.canonical_of_read? hv) hc'

theorem requests_of_clears {script : Script} {records : Members}
    (hg : Gives (Clears s.target records) (script.reply 0)) :
    (runReconcile s ip script).requests =
      [readCall s script.signal.isGiven, writeCall s records ip script.signal.isGiven] := by
  rcases run_reconcile s ip script rfl with ⟨records', hg', ht⟩ | ⟨-, f, -, hends⟩
  · have hfinish := run_finish s ip script.signal.isGiven records' script.rest rfl
    rw [ht, hg.unique hg', Transcript.after, hfinish.1]
  · exact absurd hg.passes hends.not_gives

theorem requests_of_not_clears {script : Script}
    (h : ¬ ∃ records, Gives (Clears s.target records) (script.reply 0)) :
    (runReconcile s ip script).requests = [readCall s script.signal.isGiven] := by
  rcases run_reconcile s ip script rfl with ⟨records, hg, -⟩ | ⟨hr, -⟩
  · exact absurd ⟨records, hg⟩ h
  · exact hr

/-- An update reads, and then it may write once. It writes if and only if the answer to reading is a
success that holds the record set of the target, and then it writes over just these records. -/
theorem write_iff_cleared (script : Script) :
    let signalled := script.signal.isGiven
    let sent := (runReconcile s ip script).requests
    (sent = [readCall s signalled] ∨
      ∃ records, sent = [readCall s signalled, writeCall s records ip signalled]) ∧
    ((∃ r ∈ sent, r.endpoint = .changeRecords) ↔
      ∃ records, Gives (Clears s.target records) (script.reply 0)) ∧
    ∀ records, Gives (Clears s.target records) (script.reply 0) →
      sent = [readCall s signalled, writeCall s records ip signalled] := by
  intro signalled sent
  by_cases h : ∃ records, Gives (Clears s.target records) (script.reply 0)
  · obtain ⟨records, hg⟩ := h
    have hsent : sent = [readCall s signalled, writeCall s records ip signalled] :=
      requests_of_clears s ip hg
    refine ⟨Or.inr ⟨records, hsent⟩, ?_, fun _ hg => requests_of_clears s ip hg⟩
    exact ⟨fun _ => ⟨records, hg⟩,
      fun _ => ⟨writeCall s records ip signalled, by simp [hsent], rfl⟩⟩
  · have hsent : sent = [readCall s signalled] := requests_of_not_clears s ip h
    refine ⟨Or.inl hsent, ⟨?_, fun hg => absurd hg h⟩, fun records hg => absurd ⟨records, hg⟩ h⟩
    intro ⟨r, hmem, hwrite⟩
    rw [hsent, List.mem_singleton] at hmem
    subst hmem
    exact Endpoint.noConfusion hwrite

end ZoneKeeper.Update
