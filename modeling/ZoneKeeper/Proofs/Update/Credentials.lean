import Mathlib
import ZoneKeeper.CommandLine
import ZoneKeeper.Proofs.Api.Redaction
import ZoneKeeper.Proofs.Update.Gate

namespace ZoneKeeper

namespace Update

/-- The settings point the same name at an address in the same way. -/
structure SameRecord (s s' : Settings) : Prop where
  target : s.target = s'.target
  priority : s.priority = s'.priority

section Accounts
variable {s s' : Settings}

theorem redacted_call (s s' : Settings) (e : Endpoint) (payload : Json) (signalled : Bool) :
    (call s e payload signalled).redacted = (call s' e payload signalled).redacted := by
  have hlogin : Request.isSecret (Form.encodeText "login") = true := by decide +kernel
  have hpasswd : Request.isSecret (Form.encodeText "passwd") = true := by decide +kernel
  have hquery : Request.redactQuery (Form.encode (sortedEntries s payload)) =
      Request.redactQuery (Form.encode (sortedEntries s' payload)) := by
    rw [Request.redactQuery_encode (by simp [sortedEntries]),
      Request.redactQuery_encode (by simp [sortedEntries])]
    simp only [sortedEntries, List.map_cons, List.map_nil, Request.redactParameter_entryText,
      hlogin, hpasswd, if_true]
  simp only [Request.redacted, url_call, Option.map_some, hquery]
  rfl

theorem redacted_reconcile (h : SameRecord s s') (ip : Text) (signalled : Bool) :
    (reconcile s ip signalled).redacted = (reconcile s' ip signalled).redacted := by
  have hread : (readCall s signalled).redacted = (readCall s' signalled).redacted := by
    rw [readCall, readCall, h.target]
    exact redacted_call s s' _ _ _
  have hwrite : ∀ records, (writeCall s records ip signalled).redacted =
      (writeCall s' records ip signalled).redacted := by
    intro records
    rw [writeCall, writeCall, change, change, h.target, h.priority]
    exact redacted_call s s' _ _ _
  simp only [reconcile_eq, finish, Dialogue.redacted_bind, Dialogue.redacted_exchange, hread,
    hwrite, h.target]

theorem redacted_update (h : SameRecord s s') (ip : Text) (signalled : Bool) :
    (update s ip signalled).redacted = (update s' ip signalled).redacted := by
  simp only [update, Dialogue.redacted_bind, redacted_reconcile h]

theorem redacted_runReconcile (h : SameRecord s s') (ip : Text) (script : Script) :
    (runReconcile s ip script).redacted = (runReconcile s' ip script).redacted := by
  rw [runReconcile, runReconcile, ← Dialogue.run_redacted, ← Dialogue.run_redacted,
    redacted_reconcile h]

theorem redacted_runUpdate (h : SameRecord s s') (ip : Text) (script : Script) :
    (runUpdate s ip script).redacted = (runUpdate s' ip script).redacted := by
  rw [runUpdate, runUpdate, ← Dialogue.run_redacted, ← Dialogue.run_redacted, redacted_update h]

end Accounts

end Update

namespace CommandLine

/-- The commands differ in the values of the account at most. A value that is empty counts as
none. -/
structure SameButAccount (i i' : Input) : Prop where
  arguments : i.arguments = i'.arguments
  login : (given? (i.valueOf? "BEGET_LOGIN")).isSome = (given? (i'.valueOf? "BEGET_LOGIN")).isSome
  password :
    (given? (i.valueOf? "BEGET_PASSWORD")).isSome = (given? (i'.valueOf? "BEGET_PASSWORD")).isSome
  others : ∀ name, name ≠ Text.ofString "BEGET_LOGIN" → name ≠ Text.ofString "BEGET_PASSWORD" →
    i.valueOf? name = i'.valueOf? name

inductive Alike : Plan → Plan → Prop
  | stop (complaint : Text) : Alike (.stop complaint) (.stop complaint)
  | update (s : Settings) (login password address : Text) :
    Alike (.update (.beget s) address)
      (.update (.beget { s with login := login, password := password }) address)

def planOf (address : Text) : Except (List Settings.Fault) Settings → Plan
  | .ok s => .update (.beget s) address
  | .error faults => .stop (errorLine (Failure.message (.settings (.faults faults))))

/-- Faults are found in the target and the priority only, so they are the same for all accounts. -/
theorem alike_planOf (address domain owner login password login' password' : Text)
    (target : Except Settings.Fault Text) (priority : Except Settings.Fault Double) :
    Alike
      (planOf address (Settings.ofParts domain owner (.ok login) (.ok password) target priority))
      (planOf address
        (Settings.ofParts domain owner (.ok login') (.ok password') target priority)) := by
  cases target with
  | error fault => exact .stop _
  | ok target =>
    cases priority with
    | error fault => exact .stop _
    | ok priority =>
      exact .update ⟨domain, target, owner, login, password, priority⟩ login' password' address

section Commands
variable {i i' : Input}

theorem alike_plan (h : SameButAccount i i') : Alike (plan i) (plan i') := by
  have hdomain : i.valueOf? "BEGET_DOMAIN" = i'.valueOf? "BEGET_DOMAIN" :=
    h.others _ (by decide +kernel) (by decide +kernel)
  have hpriority : i.valueOf? "BEGET_PRIORITY" = i'.valueOf? "BEGET_PRIORITY" :=
    h.others _ (by decide +kernel) (by decide +kernel)
  have hlogin := h.login
  have hpassword := h.password
  unfold plan
  rw [h.arguments, hdomain, hpriority]
  -- Either command lacks a part of the account, or both have all of it.
  cases given? i'.arguments.head? with
  | none => exact .stop usage
  | some address =>
    cases hl : given? (i.valueOf? "BEGET_LOGIN") with
    | none =>
      obtain hl' : given? (i'.valueOf? "BEGET_LOGIN") = none := by simpa [hl] using hlogin.symm
      rw [hl']
      exact .stop missing
    | some login =>
      obtain ⟨login', hl'⟩ := Option.isSome_iff_exists.mp (hlogin.symm.trans (by rw [hl]; rfl))
      rw [hl']
      cases hp : given? (i.valueOf? "BEGET_PASSWORD") with
      | none =>
        obtain hp' : given? (i'.valueOf? "BEGET_PASSWORD") = none := by
          simpa [hp] using hpassword.symm
        rw [hp']
        exact .stop missing
      | some password =>
        obtain ⟨password', hp'⟩ :=
          Option.isSome_iff_exists.mp (hpassword.symm.trans (by rw [hp]; rfl))
        rw [hp']
        cases given? (i'.valueOf? "BEGET_DOMAIN") with
        | none => exact .stop missing
        | some domain => exact alike_planOf address domain "@" login password login' password' _ _

def Result.redacted (r : Result) : Result :=
  { r with requests := r.requests.map Request.redacted }

theorem Result.eq_of_redacted_eq {r r' : Result} (h : r.redacted = r'.redacted) :
    r.exitCode = r'.exitCode ∧ r.out = r'.out ∧ r.err = r'.err ∧ r.log = r'.log ∧
      r.requests.map Request.redacted = r'.requests.map Request.redacted :=
  Result.mk.inj h

def resultOf (level : Log.Level) (p : Provider) (address : Text) (t : Transcript Text) : Result :=
  let e := ending p t.outcome
  ⟨e.exitCode, lines (greeting p address :: e.out), lines e.err,
    (Log.keep level t.log).map (Log.Event.line p.logContext), t.requests⟩

theorem redacted_resultOf (level : Log.Level) (p : Provider) (address : Text)
    (t : Transcript Text) :
    (resultOf level p address t).redacted = resultOf level p address t.redacted := rfl

theorem runAt_of_plan {p : Provider} {address : Text} (h : plan i = .update p address)
    (level : Log.Level) (responses : List Response) :
    runAt level i responses = resultOf level p address
      (Update.runUpdate p.settings address ⟨responses, .live⟩) := by
  rw [runAt, h]
  rfl

/-- Nothing that is displayed of a provider comes from its account. -/
theorem resultOf_account (level : Log.Level) (s : Settings) (login password address : Text) :
    resultOf level (.beget { s with login := login, password := password }) address =
      resultOf level (.beget s) address := rfl

theorem redacted_runAt (h : SameButAccount i i') (level : Log.Level) (responses : List Response) :
    (runAt level i responses).redacted = (runAt level i' responses).redacted := by
  have hplan := alike_plan h
  generalize hp : plan i = p, hp' : plan i' = p' at hplan
  cases hplan with
  | stop complaint => rw [runAt, runAt, hp, hp']
  | update s login password address =>
    have hsame : Update.SameRecord s { s with login := login, password := password } := ⟨rfl, rfl⟩
    rw [runAt_of_plan hp, runAt_of_plan hp', resultOf_account _ s login password,
      redacted_resultOf, redacted_resultOf, Provider.settings, Provider.settings,
      Update.redacted_runUpdate hsame]

theorem redacted_run (h : SameButAccount i i') (levels : Log.Levels) (responses : List Response) :
    (run levels i responses).redacted = (run levels i' responses).redacted := by
  have hlevel : logLevel levels i = logLevel levels i' := by
    rw [logLevel, logLevel, h.others _ (by decide +kernel) (by decide +kernel)]
  rw [run, run, hlevel]
  cases logLevel levels i' with
  | error message => rfl
  | ok level => exact redacted_runAt h level responses

end Commands

end CommandLine

namespace Update
open CommandLine

/-- No account shows in an update. With two accounts that keep the same name in the same way the
outcome and the log are the same, and the requests are the same but for the values of the
credentials. Two commands that differ in the values of the account print the same and end alike. -/
theorem account_does_not_show :
    (∀ (s s' : Settings) (ip : Text) (script : Script), SameRecord s s' →
      let t := runReconcile s ip script
      let t' := runReconcile s' ip script
      t.outcome = t'.outcome ∧ t.log = t'.log ∧
        t.requests.map Request.redacted = t'.requests.map Request.redacted) ∧
    ∀ (levels : Log.Levels) (i i' : Input) (responses : List Response), SameButAccount i i' →
      let r := CommandLine.run levels i responses
      let r' := CommandLine.run levels i' responses
      r.exitCode = r'.exitCode ∧ r.out = r'.out ∧ r.err = r'.err ∧ r.log = r'.log ∧
        r.requests.map Request.redacted = r'.requests.map Request.redacted := by
  constructor
  · intro s s' ip script h t t'
    exact Transcript.eq_of_redacted_eq (redacted_runReconcile h ip script)
  · intro levels i i' responses h r r'
    exact Result.eq_of_redacted_eq (redacted_run h levels responses)

/-- A login that holds the marks of a query, and a password that is half of a pair. -/
theorem account_does_not_show_marks :
    let s : Settings := ⟨"example.com", "www.example.com", "www", "me", "pw", .ofNat 10⟩
    let s' : Settings := ⟨"home", "www.example.com", "@", "a&passwd=%#", [0xD800], .ofNat 10⟩
    let script : Script := ⟨[⟨some .body, .body Status.ok "{}"⟩], .live⟩
    let command (login password : Text) : Input := ⟨["192.0.2.7"], [("BEGET_LOGIN", login),
      ("BEGET_PASSWORD", password), ("BEGET_DOMAIN", "www.example.com")]⟩
    let i := command "me" "pw"
    let i' := command "a&passwd=%#" [0xD800]
    let t := runReconcile s "192.0.2.7" script
    let t' := runReconcile s' "192.0.2.7" script
    let r := CommandLine.run Log.Level.read i script.responses
    let r' := CommandLine.run Log.Level.read i' script.responses
    (SameRecord s s' ∧ t.outcome = t'.outcome ∧ t.log = t'.log ∧
      t.requests.map Request.redacted = t'.requests.map Request.redacted) ∧
    SameButAccount i i' ∧
      r.exitCode = r'.exitCode ∧ r.out = r'.out ∧ r.err = r'.err ∧ r.log = r'.log ∧
        r.requests.map Request.redacted = r'.requests.map Request.redacted := by
  intro s s' script command i i' t t' r r'
  have hs : SameRecord s s' := ⟨rfl, rfl⟩
  have hi : SameButAccount i i' := by
    refine ⟨rfl, by decide +kernel, by decide +kernel, ?_⟩
    intro name hlogin hpassword
    simp [i, i', command, Input.valueOf?, List.lookup_cons, beq_false_of_ne hlogin,
      beq_false_of_ne hpassword]
  exact ⟨⟨hs, account_does_not_show.1 s s' _ script hs⟩, hi,
    account_does_not_show.2 Log.Level.read i i' script.responses hi⟩

end Update

end ZoneKeeper
