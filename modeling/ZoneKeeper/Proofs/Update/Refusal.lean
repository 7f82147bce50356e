import Mathlib
import ZoneKeeper.Proofs.Domain
import ZoneKeeper.Proofs.Envelope.Spelling
import ZoneKeeper.Proofs.Settings
import ZoneKeeper.Proofs.Update.Gate

namespace ZoneKeeper

namespace Envelope

/-- A success at both levels that is about another name than the target. -/
structure NamesOther (target found : Text) (v : Json) : Prop extends IsSuccess v where
  fqdn : under? ["answer", "result", "fqdn"] v = some (.string found)
  other : found ≠ target

section Decoded
variable {v : Json} {e : Envelope Zone}

theorem isSuccess_iff (hv : Json.Canonical v) (h : read readZone v = .ok e) :
    IsSuccess v ↔ e.succeeded = true := by
  constructor
  · intro hs
    have hshape := (succeeds_read (fun path x hx => succeeds_readZone hx path) hv).mp ⟨e, h⟩
    obtain ⟨a, ha, hinner⟩ := under?_cons_eq_some_iff.mp hs.inner
    have hac := canonical_of_under? hv (by decide +kernel) ha
    have hanswer := hshape.answer.shape ha hinner
    obtain ⟨slot, hslot⟩ : Succeeds (readSlot (readZone ["answer", "result"])
        (under? ["result"] a)) := by
      rw [← field?_eq_under? hac (by rfl)]
      exact (slotAt_iff hac (by rfl) fun x hx => succeeds_readZone hx _).mpr hanswer.result
    have hread := (read_eq_ok_iff hv).mpr
      ⟨hshape.level, hs.outer, a, ha, hanswer.level, hinner, hslot⟩
    rw [h] at hread
    exact (succeeded_iff e).mpr ⟨slot, Except.ok.inj hread⟩
  · intro hs
    obtain ⟨slot, rfl⟩ := (succeeded_iff e).mp hs
    obtain ⟨-, houter, a, ha, -, hinner, -⟩ := (read_eq_ok_iff hv).mp h
    exact ⟨houter, under?_cons_eq_some_iff.mpr ⟨a, ha, hinner⟩⟩

theorem fqdn_of_readZone {path : List Text} {zone : Zone} (hv : Json.Canonical v)
    (h : readZone path v = .ok zone) (name : Text) :
    under? ["fqdn"] v = some (.string name) ↔ zone.fqdn = some name := by
  rw [readZone, readFields_eq_ok_iff, both_eq_ok_iff, field?_eq_under? hv (by rfl)] at h
  obtain ⟨-, fqdn, records, hfqdn, -, rfl⟩ := h
  rw [← readText_eq_ok_some_iff, hfqdn, Except.ok.injEq]

theorem fqdn_iff (hv : Json.Canonical v) (h : read readZone v = .ok e)
    (hs : e.succeeded = true) (name : Text) :
    under? ["answer", "result", "fqdn"] v = some (.string name) ↔ e.answered? = some name := by
  obtain ⟨slot, rfl⟩ := (succeeded_iff e).mp hs
  obtain ⟨-, -, a, ha, -, -, hslot⟩ := (read_eq_ok_iff hv).mp h
  rw [under?_cons, ha, Option.bind_some, under?_cons]
  have hwrites : WritesSlot (fun zone x => readZone ["answer", "result"] x = .ok zone) slot
      (under? ["result"] a) := (readSlot_eq_ok_iff fun _ _ _ => Iff.rfl).mp hslot
  generalize hresult : under? ["result"] a = result at hwrites
  cases hwrites with
  | absent => simp [answered?]
  | null => simp [answered?, under?_singleton, folded, Members.get?]
  | value _ hzone =>
    have hac := canonical_of_under? hv (by decide +kernel) ha
    exact fqdn_of_readZone (canonical_of_under? hac (by decide +kernel) hresult) hzone name

end Decoded

end Envelope

namespace Failure

theorem oneLine_place (e : Endpoint) : Text.OneLine (place Api.label e) := by
  cases e <;> decide +kernel

theorem oneLine_quoted {t : Text} : Text.OneLine (quoted t) ↔ Text.OneLine t := by
  have hquote : Text.OneLine [0x22] := by decide +kernel
  rw [quoted, ← List.singleton_append, Text.oneLine_append, Text.oneLine_append]
  exact ⟨fun h => h.1.2, fun h => ⟨⟨hquote, h⟩, hquote⟩⟩

/-- The names that the message of a refusal quotes. -/
def quotedNames : Refusal → List Text
  | .notSuccessful => []
  | .otherName found expected => [found.getD [], expected]
  | .noRecordSet expected => [expected]

/-- Only the names that it quotes can break the message of a refusal. -/
theorem oneLine_refused (e : Endpoint) (body : Text) (r : Refusal) :
    Text.OneLine (refused e body r).message ↔ ∀ name ∈ quotedNames r, name.OneLine := by
  have hplace := oneLine_place e
  rw [message, Text.oneLine_append]
  cases r with
  | notSuccessful =>
    have hfront : Text.OneLine "response doesn't indicate success: " := by decide +kernel
    have hmessage : Text.OneLine (refusalMessage body .notSuccessful) :=
      Text.oneLine_append.mpr ⟨hfront, Text.oneLine_singleLine body⟩
    exact iff_of_true ⟨hplace, hmessage⟩ (by simp [quotedNames])
  | otherName found expected =>
    have hfront : Text.OneLine "response is for " := by decide +kernel
    have hmiddle : Text.OneLine ", expected " := by decide +kernel
    rw [quotedNames, List.forall_mem_cons, List.forall_mem_singleton]
    simp only [refusalMessage, Text.oneLine_append, hplace, hfront, hmiddle, oneLine_quoted,
      true_and, and_true]
  | noRecordSet expected =>
    have hfront : Text.OneLine "response has no record set for " := by decide +kernel
    rw [quotedNames, List.forall_mem_singleton]
    simp only [refusalMessage, Text.oneLine_append, hplace, hfront, oneLine_quoted, true_and]

end Failure

namespace Update
open Envelope

section Runs
variable {α : Type} {f : Failure}

/-- A call itself fails in its transport only, so any other failure comes from the work after it. -/
theorem outcome_exchange_bind {r : Request} {k : Text → Dialogue α} {script : Script}
    (ho : ((Dialogue.exchange r >>= k).run script).outcome = .error f)
    (hf : ∀ e details, f.kind ≠ .transport e details) :
    ∃ text, script.reply 0 = .body Status.ok text ∧
      ((k text).run script.rest).outcome = .error f := by
  rw [Dialogue.run_exchange_bind] at ho
  cases hreply : script.reply 0 with
  | nothing cause =>
    simp only [hreply] at ho
    obtain rfl := Except.error.inj ho
    exact absurd rfl (hf _ _)
  | brokenBody status cause =>
    simp only [hreply] at ho
    obtain rfl := Except.error.inj ho
    exact absurd rfl (hf _ _)
  | body status text =>
    simp only [hreply] at ho
    split_ifs at ho with hstatus
    · subst hstatus
      exact ⟨text, rfl, ho⟩
    · obtain rfl := Except.error.inj ho
      exact absurd rfl (hf _ _)

theorem refused_of_confirm {text : Text} {k : Unit → Dialogue α} {script : Script}
    (ho : ((confirm text >>= k).run script).outcome = .error f)
    (hk : ∀ u, ∃ a, ((k u).run script).outcome = .ok a)
    (hf : ∀ e body cause, f.kind ≠ .decoding e body cause) :
    f = .refused .changeRecords text .notSuccessful := by
  cases hd : decodeChange text with
  | error r =>
    rw [confirm_of_error hd] at ho
    obtain rfl := Except.error.inj ho
    obtain ⟨cause, hkind⟩ := kind_undecodable .changeRecords text r
    exact absurd hkind (hf _ _ _)
  | ok e =>
    rw [confirm_of_ok hd] at ho
    split_ifs at ho
    · obtain ⟨a, ha⟩ := hk ()
      exact absurd (ha.symm.trans ho) (by simp)
    · exact (Except.error.inj ho).symm

variable {s : Settings} {ip : Text} {script : Script}

/-- A refusal comes from the envelope that was read, or from the answer to writing. -/
theorem refused_of_run {e : Endpoint} {body : Option Text}
    (ho : (runReconcile s ip script).outcome = .error f) (hk : f.kind = .reconciliation e body) :
    (∃ text v envelope r, script.reply 0 = .body Status.ok text ∧
      Json.read? Json.agree text = some v ∧ read readZone v = .ok envelope ∧
      Refuses s.target envelope r ∧ f = .refused .getData text r) ∨
    (∃ records, Gives (Clears s.target records) (script.reply 0)) ∧
      ∃ text, f = .refused .changeRecords text .notSuccessful := by
  have htransport : ∀ e details, f.kind ≠ .transport e details := by
    intro e details h
    exact Report.Kind.noConfusion (hk.symm.trans h)
  have hdecoding : ∀ e body cause, f.kind ≠ .decoding e body cause := by
    intro e body cause h
    exact Report.Kind.noConfusion (hk.symm.trans h)
  -- No call failed and nothing was undecodable, so a judgement on a body refused.
  rw [runReconcile, reconcile_eq] at ho
  obtain ⟨text, hreply, ho⟩ := outcome_exchange_bind ho htransport
  cases hd : decodeZone text with
  | error r =>
    rw [zoneOf_of_error s.target hd] at ho
    obtain rfl := Except.error.inj ho
    obtain ⟨cause, hkind⟩ := kind_undecodable .getData text r
    exact absurd hkind (hdecoding _ _ _)
  | ok envelope =>
    rw [zoneOf_of_ok s.target hd] at ho
    obtain ⟨v, hv, hread⟩ := decode_eq_ok_iff.mp hd
    rcases recordsOf_cases s.target text envelope with ⟨records, rfl⟩ | ⟨event, r, hrefuse, hr, -⟩
    · right
      have hclears := (clears_iff (Json.canonical_of_read? hv)).mp hread
      refine ⟨⟨records, text, hreply, v, hv, hclears⟩, ?_⟩
      rw [recordsOf_cleared] at ho
      obtain ⟨text', -, ho⟩ := outcome_exchange_bind ho htransport
      exact ⟨text', refused_of_confirm ho (fun _ => ⟨ip, rfl⟩) hdecoding⟩
    · left
      rw [hrefuse] at ho
      exact ⟨text, v, envelope, r, hreply, hv, hread, hr, (Except.error.inj ho).symm⟩

end Runs

section Messages
variable {blob : Settings.Blob} {domain owner : Text} {s : Settings}

/-- The name of an envelope that is refused as another's is the only one that can break a line. -/
theorem oneLine_of_refuses (hs : Settings.ofBlob blob domain owner = .ok s) {text : Text} {v : Json}
    {envelope : Envelope Zone} {r : Refusal} (hv : Json.Canonical v)
    (hread : read readZone v = .ok envelope) (hr : Refuses s.target envelope r) :
    Text.OneLine (Failure.refused .getData text r).message ↔
      ∀ found, NamesOther s.target found v → found.OneLine := by
  have htarget : s.target.OneLine := Domain.oneLine_of_isValid (Settings.isValid_target hs)
  have hname : ∀ found, NamesOther s.target found v →
      envelope.succeeded = true ∧ envelope.answered? = some found := by
    intro found hn
    have hsucceeded := (isSuccess_iff hv hread).mp hn.toIsSuccess
    exact ⟨hsucceeded, (fqdn_iff hv hread hsucceeded found).mp hn.fqdn⟩
  -- Only the refusal for another name quotes the answer; the target itself is on one line.
  rw [Failure.oneLine_refused]
  cases hr with
  | notSuccessful h =>
    apply iff_of_true
    · simp [Failure.quotedNames]
    · intro found hn
      exact absurd (hname found hn).1 (by simp [h])
  | noRecordSet h hsame =>
    apply iff_of_true (by simpa [Failure.quotedNames] using htarget)
    intro found hn
    have hfound : some found = some s.target := (hname found hn).2.symm.trans hsame
    exact absurd (Option.some.inj hfound) hn.other
  | otherName h hother =>
    rw [Failure.quotedNames, List.forall_mem_cons, List.forall_mem_singleton,
      and_iff_left htarget]
    constructor
    · intro hline found hn
      rwa [(hname found hn).2] at hline
    · intro hall
      cases hfound : envelope.answered? with
      | none => exact fun u hu => absurd hu List.not_mem_nil
      | some found =>
        apply hall found
        refine ⟨(isSuccess_iff hv hread).mpr h, (fqdn_iff hv hread h found).mpr hfound, ?_⟩
        rintro rfl
        exact hother hfound

/-- A refusal is worded on one line, unless the answer to reading is a success for another name and
that name does not stay on one line itself. -/
theorem refusal_oneLine_iff (hs : Settings.ofBlob blob domain owner = .ok s) (ip : Text)
    (script : Script) {f : Failure} {e : Endpoint} {body : Option Text}
    (ho : (runReconcile s ip script).outcome = .error f)
    (hk : f.kind = .reconciliation e body) :
    f.message.OneLine ↔
      ∀ found, Gives (NamesOther s.target found) (script.reply 0) → found.OneLine := by
  rcases refused_of_run ho hk with ⟨text, v, envelope, r, hreply, hv, hread, hr, rfl⟩ | ⟨hc, htext⟩
  · rw [oneLine_of_refuses hs (Json.canonical_of_read? hv) hread hr]
    have hgives : ∀ found, Gives (NamesOther s.target found) (script.reply 0) ↔
        NamesOther s.target found v := by
      intro found
      constructor
      · rintro ⟨text', htext', w, hw, hn⟩
        obtain ⟨-, rfl⟩ := Reply.body.inj (hreply.symm.trans htext')
        rwa [Option.some.inj (hv.symm.trans hw)]
      · intro hn
        exact ⟨text, hreply, v, hv, hn⟩
    simp only [hgives]
  -- Reading passed, so the answer was about the target, and the message holds the body on one line.
  · obtain ⟨text, rfl⟩ := htext
    obtain ⟨records, text', htext', v, hv, hclears⟩ := hc
    apply iff_of_true
    · rw [Failure.oneLine_refused]
      simp [Failure.quotedNames]
    · rintro found ⟨text'', htext'', w, hw, hn⟩
      obtain ⟨-, rfl⟩ := Reply.body.inj (htext'.symm.trans htext'')
      obtain rfl : v = w := Option.some.inj (hv.symm.trans hw)
      have hfqdn := hclears.fqdn.symm.trans hn.fqdn
      exact absurd (Json.string.inj (Option.some.inj hfqdn)).symm hn.other

end Messages

def answerFor (name : Text) : Envelope Zone where
  status := some Api.success
  answer := .value ⟨some Api.success, .value ⟨some name, .absent⟩⟩

theorem canonical_answerFor (name : Text) : Json.Canonical (toJson zoneJson (answerFor name)) := by
  have hzone := Members.canonical_singleton "fqdn" (.string name)
  have hanswer := Members.canonical_pair "status" "result" (by decide +kernel)
    (.string Api.success) (Json.canonical_object_iff.mpr hzone)
  exact Json.canonical_object_iff.mpr (Members.canonical_pair "status" "answer" (by decide +kernel)
    (.string Api.success) (Json.canonical_object_iff.mpr hanswer))

theorem outcome_answerFor {s : Settings} {name : Text} (hname : name ≠ s.target) (ip : Text)
    (signal : Signal) :
    let body := (toJson zoneJson (answerFor name)).write
    (runReconcile s ip ⟨[⟨none, .body Status.ok body⟩], signal⟩).outcome =
      .error (.refused .getData body (.otherName (some name) s.target)) := by
  intro body
  have hd : decodeZone body = .ok (answerFor name) :=
    decode_eq_ok_iff.mpr ⟨_, Json.read?_write (canonical_answerFor name), rfl⟩
  have hrefuse : recordsOf s.target body (answerFor name) =
      .failWith (.otherName (some name)) (.refused .getData body
        (.otherName (some name) s.target)) := by
    simp [recordsOf, answerFor, succeeded, hname]
  have hzone := zoneOf_of_ok s.target hd
  rw [runReconcile, reconcile_eq, Dialogue.run_exchange_bind]
  simp only [Script.reply, List.getElem?_cons_zero, if_true, hzone, hrefuse]
  rfl

/-- An escaped separator of lines in a name comes back into the message. -/
theorem refusal_oneLine_iff_separator :
    let blob : Settings.Blob := .value (.object [("login", .string "user"),
      ("password", .string "secret"), ("domain", .string "www.example.com")])
    let name : Text := [0x61, 0x2028, 0x62]
    let body := (toJson zoneJson (answerFor name)).write
    let script : Script := ⟨[⟨none, .body Status.ok body⟩], .live⟩
    let a : Ipv4 := ⟨192, 0, 2, 7⟩
    ∃ s f, Settings.ofBlob blob "example.com" "www" = .ok s ∧
      (runReconcile s a.toText script).outcome = .error f ∧
      f.kind = .reconciliation .getData (some body) ∧
      Gives (NamesOther s.target name) (script.reply 0) ∧ ¬ f.message.OneLine := by
  intro blob name body script a
  obtain ⟨s, hs, ht⟩ : ∃ s, Settings.ofBlob blob "example.com" "www" = .ok s ∧
      s.target = "www.example.com" := Settings.exists_of_target (by decide +kernel)
  have hname : name ≠ s.target := by
    rw [ht]
    decide +kernel
  have hv : Json.Canonical (toJson zoneJson (answerFor name)) := canonical_answerFor name
  have hgives : Gives (NamesOther s.target name) (script.reply 0) :=
    ⟨body, rfl, _, Json.read?_write hv, (isSuccess_iff hv rfl).mpr rfl,
      (fqdn_iff hv rfl rfl name).mpr rfl, hname⟩
  have ho := outcome_answerFor hname a.toText .live
  refine ⟨s, _, hs, ho, rfl, hgives, ?_⟩
  intro hline
  have hone := (refusal_oneLine_iff hs a.toText script ho rfl).mp hline name hgives
  exact absurd hone (by decide +kernel)

/-- A line feed that is escaped in the name of an answer breaks the message of the refusal. -/
theorem refusal_breaks_line :
    let blob : Settings.Blob := .value (.object [("login", .string "user"),
      ("password", .string "secret"), ("domain", .string "www.example.com")])
    let body := (toJson zoneJson (answerFor "other\nexample")).write
    let script : Script := ⟨[⟨none, .body Status.ok body⟩], .none⟩
    let a : Ipv4 := ⟨192, 0, 2, 7⟩
    ∃ s f, Settings.ofBlob blob "example.com" "www" = .ok s ∧
      (runReconcile s a.toText script).outcome = .error f ∧
      f.kind = .reconciliation .getData (some body) ∧
      f.message = Text.ofString ("Beget: getData: response is for \"other\nexample\", " ++
        "expected \"www.example.com\"") ∧ ¬ f.message.OneLine := by
  intro blob body script a
  obtain ⟨s, hs, ht⟩ : ∃ s, Settings.ofBlob blob "example.com" "www" = .ok s ∧
      s.target = "www.example.com" := Settings.exists_of_target (by decide +kernel)
  have hname : Text.ofString "other\nexample" ≠ s.target := by
    rw [ht]
    decide +kernel
  have ho := outcome_answerFor hname a.toText .none
  refine ⟨s, _, hs, ho, rfl, ?_, ?_⟩
  · rw [ht]
    decide +kernel
  · rw [Failure.oneLine_refused]
    intro hline
    exact absurd (hline _ List.mem_cons_self) (by decide +kernel)

end Update

end ZoneKeeper
