import Mathlib
import ZoneKeeper.Proofs.CommandLine.Plan
import ZoneKeeper.Proofs.Domain
import ZoneKeeper.Proofs.Update.Outcome

namespace ZoneKeeper

/-- A unit that a stream carries as it is, and that ends no line. -/
def CodeUnit.isPlain (u : CodeUnit) : Bool := !u.isHalf && u ≠ 0x0A

namespace CommandLine

section Streams
variable {ls : List Text}

theorem lines_cons (l : Text) (ls : List Text) :
    lines (l :: ls) = l.repair ++ 0x0A :: lines ls := by
  have hflat : lines (l :: ls) = Text.repair (l ++ 0x0A :: ls.flatMap fun l => l ++ [0x0A]) := by
    simp [lines]
  rw [hflat, Text.repair_append_cons (by decide)]
  rfl

theorem lines_eq_nil_iff : lines ls = [] ↔ ls = [] := by
  cases ls with
  | nil => exact iff_of_true rfl rfl
  | cons l ls => simp [lines_cons]

theorem mem_splitOn_lines {x : Text} (hx : x ≠ []) :
    x ∈ (lines ls).splitOn 0x0A ↔ ∃ l ∈ ls, x ∈ l.repair.splitOn 0x0A := by
  induction ls with
  | nil => simp [lines, Text.repair, Text.chars, List.splitOn_nil, hx]
  | cons l ls ih =>
    rw [lines_cons, List.splitOn_append_cons_self, List.mem_append, ih, List.exists_mem_cons_iff]

theorem splitOn_repair_of_isPlain {t : Text} (h : t.all CodeUnit.isPlain = true) :
    t.repair.splitOn 0x0A = [t] := by
  have hunit : ∀ u ∈ t, u.isHalf = false ∧ u ≠ 0x0A := by
    intro u hu
    simpa [CodeUnit.isPlain] using List.all_eq_true.mp h u hu
  rw [(Text.spelled_of_forall fun u hu => (hunit u hu).1).repair_eq]
  exact List.splitOn_eq_singleton fun hfeed => (hunit _ hfeed).2 rfl

end Streams

/-- The other side of a command, whose deadline is still to pass. -/
def scriptOf (responses : List Response) : Script := ⟨responses, .live⟩

/-- The command set out to make its update, and that failed. -/
def FailsWith (i : Input) (responses : List Response) (f : Failure) : Prop :=
  ∃ p address, plan i = .update p address ∧
    (Update.runUpdate p.settings address (scriptOf responses)).outcome = .error f

def doneLine (domain : Text) (a : Ipv4) : Text := "Done! " ++ domain ++ " -> " ++ a.toText

def answerMark : Text := "\nProvider answered: "

section Lines
variable {i : Input} {p : Provider} {address : Text} {a : Ipv4}

theorem doneLine_ne_nil (domain : Text) (a : Ipv4) : doneLine domain a ≠ [] := by
  have hfront : Text.ofString "Done! " ≠ [] := by decide +kernel
  simp [doneLine, hfront]

theorem isPlain_of_range {u : CodeUnit} (h : 0x2D ≤ u.toNat ∧ u.toNat ≤ 0x7A) :
    u.isPlain = true := by
  have hhalf : u.isHalf = false := (CodeUnit.isHalf_eq_false_iff u).mpr (by omega)
  have hfeed : u ≠ 0x0A := by
    rintro rfl
    exact absurd h (by decide)
  simp [CodeUnit.isPlain, hhalf, hfeed]

theorem isPlain_doneLine {domain : Text} (h : Domain.isValid domain = true) :
    (doneLine domain a).all CodeUnit.isPlain = true := by
  have hfront : (Text.ofString "Done! ").all CodeUnit.isPlain = true := by decide +kernel
  have harrow : (Text.ofString " -> ").all CodeUnit.isPlain = true := by decide +kernel
  have hname : domain.all CodeUnit.isPlain = true :=
    List.all_eq_true.mpr fun u hu => isPlain_of_range (Domain.range_of_mem h hu)
  have haddress : a.toText.all CodeUnit.isPlain = true := by
    apply List.all_eq_true.mpr
    intro u hu
    have hrange := Ipv4.range_of_mem hu
    exact isPlain_of_range (by omega)
  simp only [doneLine, List.all_append, hfront, harrow, hname, haddress, Bool.and_self]

theorem not_mem_toText (hplan : plan i = .update p address) {u : CodeUnit} (hu : u.toNat < 0x2D)
    (hrest : u ∉ Provider.describe [] "@" Api.providerName "ipv4") : u ∉ p.toText := by
  obtain ⟨-, h⟩ := plan_eq_update_iff.mp hplan
  have hname : u ∉ p.domain := by
    intro hmem
    have hrange := Domain.range_of_mem h.valid hmem
    omega
  have howner : p.owner = Text.ofString "@" := h.owner
  have hversion : p.ipVersion = Text.ofString "ipv4" := by
    cases p
    rfl
  simp only [Provider.describe, List.mem_append, List.not_mem_nil, or_false, not_or] at hrest
  simp only [Provider.toText, Provider.describe, howner, hversion, List.mem_append, hname, hrest,
    or_self, not_false_eq_true]

/-- The greeting has no exclamation mark but those of the address, so neither has a line of it. -/
theorem mark_mem_of_doneLine (hplan : plan i = .update p address) {domain : Text}
    (h : doneLine domain a ∈ (greeting p address).repair.splitOn 0x0A) :
    (0x21 : CodeUnit) ∈ address := by
  by_contra haddress
  have hprovider := not_mem_toText hplan (u := 0x21) (by decide) (by decide +kernel)
  have hfront : (0x21 : CodeUnit) ∉ Text.ofString "\nUpdating " := by decide +kernel
  have hmiddle : (0x21 : CodeUnit) ∉ Text.ofString " to " := by decide +kernel
  have hend : (0x21 : CodeUnit) ∉ Text.ofString "..." := by decide +kernel
  have hgreeting : (0x21 : CodeUnit) ∉ greeting p address := by
    simp only [greeting, List.mem_append, hfront, hprovider, hmiddle, haddress, hend, or_self,
      not_false_eq_true]
  have hmark : (0x21 : CodeUnit) ∈ doneLine domain a := by
    have hdone : (0x21 : CodeUnit) ∈ Text.ofString "Done! " := by decide +kernel
    simp only [doneLine, List.mem_append, hdone, true_or]
  exact hgreeting (Text.mem_of_mem_repair (by decide) (Text.mem_of_mem_splitOn h hmark))

theorem doneLine_not_mem_greeting (hplan : plan i = .update p address)
    (ha : address.trim = a.toText) (domain : Text) (b : Ipv4) :
    doneLine domain b ∉ (greeting p address).repair.splitOn 0x0A := by
  intro h
  have htrim := Text.mem_trim_of_mem (mark_mem_of_doneLine hplan h) (by decide)
  exact absurd (Ipv4.range_of_mem (ha ▸ htrim)) (by decide)

/-- An address on one line leaves the greeting two lines, and both begin in another way. -/
theorem feed_mem_of_doneLine (hplan : plan i = .update p address) {domain : Text}
    (h : doneLine domain a ∈ (greeting p address).repair.splitOn 0x0A) :
    (0x0A : CodeUnit) ∈ address := by
  by_contra haddress
  have hprovider := not_mem_toText hplan (u := 0x0A) (by decide) (by decide +kernel)
  have hmiddle : (0x0A : CodeUnit) ∉ Text.ofString " to " := by decide +kernel
  have hend : (0x0A : CodeUnit) ∉ Text.ofString "..." := by decide +kernel
  have hfront : (0x0A : CodeUnit) ∉ Text.ofString "pdating " := by decide +kernel
  let rest : Text := Text.ofString "pdating " ++ p.toText ++ " to " ++ address ++ "..."
  have hrest : (0x0A : CodeUnit) ∉ rest.repair := by
    intro hmem
    have hin := Text.mem_of_mem_repair (by decide) hmem
    simp only [rest, List.mem_append, hfront, hprovider, hmiddle, haddress, hend, or_self] at hin
  have hgreeting : greeting p address = [0x0A] ++ 0x55 :: rest := by
    have hsplit : Text.ofString "\nUpdating " = [0x0A] ++ 0x55 :: Text.ofString "pdating " := by
      decide +kernel
    simp only [greeting, hsplit, rest, List.append_assoc, List.cons_append]
  have hlines : (greeting p address).repair.splitOn 0x0A = [[], 0x55 :: rest.repair] := by
    have hrepair : Text.repair [0x0A] = [0x0A] := by decide +kernel
    rw [hgreeting, Text.repair_append_cons (by decide), hrepair]
    have hsingle : (0x55 :: rest.repair).splitOn 0x0A = [0x55 :: rest.repair] :=
      List.splitOn_eq_singleton (by simpa using hrest)
    have hcut : (0x0A :: 0x55 :: rest.repair).splitOn 0x0A =
        ([] : Text).splitOn 0x0A ++ (0x55 :: rest.repair).splitOn 0x0A :=
      List.splitOn_append_cons_self [] _
    rw [hsingle, List.splitOn_nil] at hcut
    exact hcut
  have hdone : Text.ofString "Done! " = 0x44 :: Text.ofString "one! " := by decide +kernel
  rw [hlines, List.mem_cons, List.mem_singleton, doneLine, hdone] at h
  simp at h

end Lines

/-- The failure of a call that had an answer, which was not empty. -/
def Answered (f : Failure) (body : Text) : Prop :=
  ∃ e details, f.kind = .transport e details ∧ details.body = some body ∧ body ≠ []

section Answers
variable {f : Failure} {body : Text}

theorem providerAnswer_of_answered (h : Answered f body) :
    providerAnswer f = [answerMark ++ body] := by
  obtain ⟨e, details, hkind, hbody⟩ := h
  rw [providerAnswer, hkind]
  dsimp only
  rw [given?_eq_some_iff.mpr hbody]
  rfl

theorem providerAnswer_of_not_answered (h : ∀ body, ¬ Answered f body) : providerAnswer f = [] := by
  unfold providerAnswer
  split
  · next e details hkind =>
    cases hgiven : given? details.body with
    | none => rfl
    | some body => exact absurd ⟨e, details, hkind, given?_eq_some_iff.mp hgiven⟩ (h body)
  · rfl

theorem not_answerMark_prefix {front : String}
    (hfront : ¬ Text.ofString front <+: answerMark ∧ ¬ answerMark <+: Text.ofString front)
    (rest : Text) (ls : List Text) : ¬ answerMark <+: lines ((front ++ rest) :: ls) := by
  intro h
  rw [lines_cons, (Text.spelled_ofString front).repair_append, List.append_assoc] at h
  rcases List.prefix_or_prefix_of_prefix h (List.prefix_append _ _) with h | h
  · exact hfront.2 h
  · exact hfront.1 h

theorem not_answerMark_prefix_errorLine (message : Text) (ls : List Text) :
    ¬ answerMark <+: lines (errorLine message :: ls) :=
  not_answerMark_prefix (by decide +kernel) message ls

theorem not_answerMark_prefix_of_stop {i : Input} {complaint : Text}
    (h : plan i = .stop complaint) : ¬ answerMark <+: lines [complaint] := by
  rcases complaint_of_stop h with rfl | rfl | ⟨message, rfl⟩
  · decide +kernel
  · decide +kernel
  · exact not_answerMark_prefix_errorLine message []

theorem answerMark_prefix_iff :
    answerMark <+: lines (providerAnswer f ++ [errorLine f.message]) ↔ ∃ body, Answered f body := by
  by_cases h : ∃ body, Answered f body
  · obtain ⟨body, hbody⟩ := h
    have hmark : answerMark.Spelled := Text.spelled_ofString _
    apply iff_of_true _ ⟨body, hbody⟩
    rw [providerAnswer_of_answered hbody, List.singleton_append, lines_cons, hmark.repair_append,
      List.append_assoc]
    exact List.prefix_append _ _
  · apply iff_of_false _ h
    rw [providerAnswer_of_not_answered (not_exists.mp h)]
    exact not_answerMark_prefix_errorLine f.message []

end Answers

inductive Course (i : Input) (responses : List Response) : Prop
  | stopped (complaint : Text) (hplan : plan i = .stop complaint)
  | failed (f : Failure) (h : FailsWith i responses f)
  | confirmed (p : Provider) (address : Text) (a : Ipv4) (hplan : plan i = .update p address)
    (ha : address.trim = a.toText)
    (hc : Update.Completes p.settings.target (scriptOf responses))

section Runs
variable {level : Log.Level} {i : Input} {responses : List Response} {p : Provider}
  {address : Text} {a : Ipv4} {f : Failure}

theorem outcome_of_completes (ha : address.trim = a.toText)
    (hc : Update.Completes p.settings.target (scriptOf responses)) :
    (Update.runUpdate p.settings address (scriptOf responses)).outcome = .ok a.toText := by
  rw [Update.run_update_of_address _ _ _ ha]
  rcases Update.reconcile_outcome p.settings a.toText (scriptOf responses) rfl with
    ⟨-, ho⟩ | ⟨hn, -⟩
  · exact ho
  · exact absurd hc hn

theorem course (i : Input) (responses : List Response) : Course i responses := by
  cases hplan : plan i with
  | stop complaint => exact .stopped complaint hplan
  | update p address =>
    by_cases h : ∃ a : Ipv4, address.trim = a.toText
    · obtain ⟨a, ha⟩ := h
      have hrun := Update.run_update_of_address p.settings address (scriptOf responses) ha
      rcases Update.reconcile_outcome p.settings a.toText (scriptOf responses) rfl with
        ⟨hc, -⟩ | ⟨-, f, e, hf⟩
      · exact .confirmed p address a hplan ha hc
      · exact .failed f ⟨p, address, hplan, hrun ▸ hf.outcome⟩
    · have hrun := Update.run_update_of_no_address p.settings address (scriptOf responses)
        (not_exists.mp h)
      exact .failed (.noAddress address) ⟨p, address, hplan, by rw [hrun]⟩

theorem FailsWith.outcome (h : FailsWith i responses f) (hplan : plan i = .update p address) :
    (Update.runUpdate p.settings address (scriptOf responses)).outcome = .error f := by
  obtain ⟨p', address', hplan', ho⟩ := h
  obtain ⟨rfl, rfl⟩ := Plan.update.inj (hplan'.symm.trans hplan)
  exact ho

theorem runAt_of_stop {complaint : Text} (h : plan i = .stop complaint) :
    runAt level i responses = ⟨1, [], lines [complaint], [], []⟩ := by
  rw [runAt, h]

theorem runAt_of_failsWith (h : FailsWith i responses f) (hplan : plan i = .update p address) :
    (runAt level i responses).exitCode = 1 ∧
      (runAt level i responses).out = lines [greeting p address] ∧
      (runAt level i responses).err = lines (providerAnswer f ++ [errorLine f.message]) := by
  have ho := h.outcome hplan
  rw [scriptOf] at ho
  rw [runAt_of_plan hplan, resultOf, ho]
  exact ⟨rfl, rfl, rfl⟩

theorem err_of_failsWith (h : FailsWith i responses f) :
    (runAt level i responses).err = lines (providerAnswer f ++ [errorLine f.message]) := by
  have ⟨p, address, hplan, _⟩ := h
  exact (runAt_of_failsWith h hplan).2.2

theorem domainName_of_plan (hplan : plan i = .update p address) :
    p.domainName = p.settings.target := by
  have h := (plan_eq_update_iff.mp hplan).2
  have howner : p.owner = Text.ofString "@" := h.owner
  rw [Provider.domainName, howner, Domain.ofOwner, if_pos rfl, h.target, Provider.domain]

theorem runAt_of_completes (hplan : plan i = .update p address) (ha : address.trim = a.toText)
    (hc : Update.Completes p.settings.target (scriptOf responses)) :
    (runAt level i responses).exitCode = 0 ∧
      (runAt level i responses).out = lines [greeting p address, doneLine p.settings.target a] ∧
      (runAt level i responses).err = [] := by
  have ho := outcome_of_completes ha hc
  rw [scriptOf] at ho
  rw [runAt_of_plan hplan, resultOf, ho, doneLine, ← domainName_of_plan hplan]
  exact ⟨rfl, rfl, rfl⟩

/-- The command asks for an update, and the provider confirms both of its calls. -/
def Confirmed (i : Input) (responses : List Response) (domain : Text) (a : Ipv4) : Prop :=
  Asks i domain a ∧ Update.Completes domain (scriptOf responses)

/-- An argument that is no address is shown in the greeting all the same, with all its lines. -/
def EchoesLines (i : Input) : Prop :=
  (∀ domain a, ¬ Asks i domain a) ∧ ∃ t, i.arguments.head? = some t ∧ 0x0A ∈ t

theorem runAt_of_confirmed (level : Log.Level) {domain : Text}
    (h : Confirmed i responses domain a) :
    (runAt level i responses).exitCode = 0 ∧ (runAt level i responses).err = [] ∧
      doneLine domain a ∈ (runAt level i responses).out.splitOn 0x0A := by
  obtain ⟨hasks, hc⟩ := h
  obtain ⟨p, address, hplan, rfl, ha⟩ := asks_iff.mp hasks
  obtain ⟨hcode, hout, herr⟩ := runAt_of_completes hplan ha hc
  refine ⟨hcode, herr, ?_⟩
  rw [hout]
  apply (mem_splitOn_lines (doneLine_ne_nil _ _)).mpr
  refine ⟨_, List.mem_cons_of_mem _ List.mem_cons_self, ?_⟩
  rw [splitOn_repair_of_isPlain (isPlain_doneLine hasks.valid)]
  exact List.mem_singleton_self _

theorem runAt_of_not_confirmed (level : Log.Level)
    (h : ∀ domain a, ¬ Confirmed i responses domain a) :
    (runAt level i responses).exitCode = 1 ∧ (runAt level i responses).err ≠ [] ∧
      ∀ domain a, doneLine domain a ∈ (runAt level i responses).out.splitOn 0x0A →
        EchoesLines i := by
  cases course i responses with
  | stopped complaint hplan =>
    rw [runAt_of_stop hplan]
    refine ⟨rfl, ?_, fun domain a hmem => absurd (List.mem_singleton.mp hmem) (doneLine_ne_nil _ _)⟩
    rw [ne_eq, lines_eq_nil_iff]
    exact List.cons_ne_nil _ _
  | failed f hf =>
    have ⟨p, address, hplan, _⟩ := hf
    obtain ⟨hcode, hout, herr⟩ := runAt_of_failsWith hf hplan
    refine ⟨hcode, ?_, ?_⟩
    · rw [herr, ne_eq, lines_eq_nil_iff]
      simp
    -- All that is printed is the greeting, so it is the argument that has the line.
    · intro domain a hmem
      rw [hout, mem_splitOn_lines (doneLine_ne_nil _ _)] at hmem
      obtain ⟨l, hl, hmem⟩ := hmem
      rw [List.mem_singleton.mp hl] at hmem
      refine ⟨?_, address, ?_, feed_mem_of_doneLine hplan hmem⟩
      · intro domain' a' hasks
        obtain ⟨p', address', hplan', -, ha⟩ := asks_iff.mp hasks
        obtain ⟨rfl, rfl⟩ := Plan.update.inj (hplan'.symm.trans hplan)
        exact doneLine_not_mem_greeting hplan ha domain a hmem
      · exact (given?_eq_some_iff.mp (plan_eq_update_iff.mp hplan).1).1
  | confirmed p address a hplan ha hc =>
    exact absurd ⟨asks_iff.mpr ⟨p, address, hplan, rfl, ha⟩, hc⟩ (h p.settings.target a)

theorem confirmed_of_exitCode (h : (runAt level i responses).exitCode = 0) :
    ∃ domain a, Confirmed i responses domain a := by
  by_contra hnot
  have hcode := (runAt_of_not_confirmed level fun domain a hc => hnot ⟨domain, a, hc⟩).1
  exact Nat.one_ne_zero (hcode.symm.trans h)

theorem not_confirmed_of_exitCode (h : (runAt level i responses).exitCode ≠ 0) (domain : Text)
    (a : Ipv4) : ¬ Confirmed i responses domain a :=
  fun hc => h (runAt_of_confirmed level hc).1

theorem exitCode_runAt (level : Log.Level) (i : Input) (responses : List Response) :
    (runAt level i responses).exitCode = 0 ∨ (runAt level i responses).exitCode = 1 := by
  by_cases h : (runAt level i responses).exitCode = 0
  · exact Or.inl h
  · exact Or.inr (runAt_of_not_confirmed level (not_confirmed_of_exitCode h)).1

theorem exitCode_runAt_eq_zero_iff : (runAt level i responses).exitCode = 0 ↔
    ∃ domain a, Confirmed i responses domain a := by
  refine ⟨confirmed_of_exitCode, ?_⟩
  intro ⟨domain, a, h⟩
  exact (runAt_of_confirmed level h).1

theorem echoesLines_of_doneLine {domain : Text} {a : Ipv4}
    (h : (runAt level i responses).exitCode ≠ 0)
    (hmem : doneLine domain a ∈ (runAt level i responses).out.splitOn 0x0A) : EchoesLines i :=
  (runAt_of_not_confirmed level (not_confirmed_of_exitCode h)).2.2 domain a hmem

theorem doneLine_mem_out_iff :
    (∃ domain a, Asks i domain a ∧ doneLine domain a ∈ (runAt level i responses).out.splitOn 0x0A) ↔
      (runAt level i responses).exitCode = 0 := by
  constructor
  · intro ⟨domain, a, hasks, hmem⟩
    by_contra h
    exact (echoesLines_of_doneLine h hmem).1 domain a hasks
  · intro h
    obtain ⟨domain, a, hc⟩ := confirmed_of_exitCode h
    exact ⟨domain, a, hc.1, (runAt_of_confirmed level hc).2.2⟩

theorem err_runAt_eq_nil_iff : (runAt level i responses).err = [] ↔
    (runAt level i responses).exitCode = 0 := by
  constructor
  · intro hnil
    by_contra h
    exact (runAt_of_not_confirmed level (not_confirmed_of_exitCode h)).2.1 hnil
  · intro h
    obtain ⟨domain, a, hc⟩ := confirmed_of_exitCode h
    exact (runAt_of_confirmed level hc).2.1

theorem asks_of_requests (h : (runAt level i responses).requests ≠ []) :
    ∃ domain a, Asks i domain a := by
  cases hplan : plan i with
  | stop complaint => exact absurd (congrArg Result.requests (runAt_of_stop hplan)) h
  | update p address =>
    by_cases ha : ∃ a : Ipv4, address.trim = a.toText
    · obtain ⟨a, ha⟩ := ha
      exact ⟨_, a, asks_iff.mpr ⟨p, address, hplan, rfl, ha⟩⟩
    · apply absurd _ h
      rw [runAt_of_plan hplan, resultOf, Update.run_update_of_no_address _ _ _ (not_exists.mp ha)]

theorem err_of_answered {body : Text} (h : FailsWith i responses f) (hbody : Answered f body) :
    (runAt level i responses).err = lines [answerMark ++ body, errorLine f.message] := by
  rw [err_of_failsWith h, providerAnswer_of_answered hbody]
  rfl

theorem answerMark_prefix_err_iff (level : Log.Level) (i : Input) (responses : List Response) :
    answerMark <+: (runAt level i responses).err ↔
      ∃ f body, FailsWith i responses f ∧ Answered f body := by
  cases course i responses with
  | stopped complaint hplan =>
    rw [runAt_of_stop hplan]
    apply iff_of_false (not_answerMark_prefix_of_stop hplan)
    rintro ⟨f, body, ⟨p, address, hupdate, -⟩, -⟩
    exact Plan.noConfusion (hplan.symm.trans hupdate)
  | failed f hf =>
    rw [err_of_failsWith hf, answerMark_prefix_iff]
    constructor
    · intro ⟨body, hbody⟩
      exact ⟨f, body, hf, hbody⟩
    · intro ⟨f', body, hf', hbody⟩
      have ⟨p, address, hplan, ho⟩ := hf
      obtain rfl := Except.error.inj (ho.symm.trans (hf'.outcome hplan))
      exact ⟨body, hbody⟩
  | confirmed p address a hplan ha hc =>
    rw [(runAt_of_completes hplan ha hc).2.2]
    apply iff_of_false (by decide +kernel)
    intro ⟨f, body, hf, _⟩
    exact absurd ((hf.outcome hplan).symm.trans (outcome_of_completes ha hc)) (by simp)

end Runs

/-- Pino takes the level that the environment names, if it names one. -/
def Accepts (levels : Log.Levels) (i : Input) : Prop := ∃ level, logLevel levels i = .ok level

section Levels
variable {levels : Log.Levels} {i : Input}

theorem run_of_level {level : Log.Level} (h : logLevel levels i = .ok level)
    (responses : List Response) : run levels i responses = runAt level i responses := by
  rw [run, h]

theorem run_of_refusal {message : Text} (h : logLevel levels i = .error message)
    (responses : List Response) :
    run levels i responses = ⟨1, [], lines [errorLine message], [], []⟩ := by
  rw [run, h]

theorem not_accepts_of_refusal {message : Text} (h : logLevel levels i = .error message) :
    ¬ Accepts levels i := by
  intro ⟨level, hlevel⟩
  exact absurd (h.symm.trans hlevel) (by simp)

end Levels

def command (address : Text) (level : List Text) : Input :=
  let account : List (Text × Text) := [("BEGET_LOGIN", "me"), ("BEGET_PASSWORD", "pw"),
    ("BEGET_DOMAIN", "www.example.com"), ("BEGET_PRIORITY", "0x10")]
  ⟨[address], account ++ level.map fun name => (Text.ofString "DDNS_LOG_LEVEL", name)⟩

def confirming : List Response :=
  let records : Text := "\x7b\"status\":\"success\",\"answer\":\x7b\"status\":\"success\"," ++
    "\"result\":\x7b\"fqdn\":\"www.example.com\",\"records\":[]\x7d\x7d\x7d"
  let done : Text := "\x7b\"status\":\"success\",\"answer\":\x7b\"status\":\"success\"\x7d\x7d"
  [⟨none, .body Status.ok records⟩, ⟨none, .body Status.ok done⟩]

/-- What the command promises. It ends with 0 or 1, and with 0 if and only if pino takes the level
for its log, it asks for an update with all that it takes, and the provider confirms both calls.
Just then it prints the line that says so, and no other command prints such a line, unless it was
given one in place of an address. Just then, too, it prints no error. Nothing is sent for a command
that asks for less. The answer of the provider is printed as it came if and only if a call failed
that had an answer, which was not empty. -/
theorem run_contract (levels : Log.Levels) (i : Input) (responses : List Response) :
    let r := run levels i responses
    (r.exitCode = 0 ∨ r.exitCode = 1) ∧
    (r.exitCode = 0 ↔ Accepts levels i ∧
      ∃ domain a, Asks i domain a ∧ Update.Completes domain (scriptOf responses)) ∧
    ((∃ domain a, Asks i domain a ∧ doneLine domain a ∈ r.out.splitOn 0x0A) ↔ r.exitCode = 0) ∧
    (∀ domain a, doneLine domain a ∈ r.out.splitOn 0x0A → r.exitCode = 0 ∨ EchoesLines i) ∧
    (r.err = [] ↔ r.exitCode = 0) ∧
    (r.requests ≠ [] → Accepts levels i ∧ ∃ domain a, Asks i domain a) ∧
    (answerMark <+: r.err ↔
      Accepts levels i ∧ ∃ f body, FailsWith i responses f ∧ Answered f body) ∧
    ∀ f body, Accepts levels i → FailsWith i responses f → Answered f body →
      r.err = lines [answerMark ++ body, errorLine f.message] := by
  intro r
  cases hlevel : logLevel levels i with
  -- All that a refused level leaves behind is its message, so the conditions fail on both sides.
  | error message =>
    have hr : r = ⟨1, [], lines [errorLine message], [], []⟩ := run_of_refusal hlevel responses
    have hnot := not_accepts_of_refusal hlevel
    have hdone : ∀ domain a, doneLine domain a ∉ ([] : Text).splitOn 0x0A := by
      intro domain a hmem
      exact doneLine_ne_nil domain a (List.mem_singleton.mp hmem)
    have herr : lines [errorLine message] ≠ [] := by
      rw [ne_eq, lines_eq_nil_iff]
      exact List.cons_ne_nil _ _
    rw [hr]
    refine ⟨Or.inr rfl, ?_, ?_, ?_, ?_, ?_, ?_, ?_⟩
    · exact iff_of_false Nat.one_ne_zero fun h => hnot h.1
    · exact iff_of_false (fun ⟨domain, a, _, hmem⟩ => hdone domain a hmem) Nat.one_ne_zero
    · exact fun domain a hmem => absurd hmem (hdone domain a)
    · exact iff_of_false herr Nat.one_ne_zero
    · exact fun h => absurd rfl h
    · exact iff_of_false (not_answerMark_prefix_errorLine message []) fun h => hnot h.1
    · exact fun f body h => absurd h hnot
  | ok level =>
    have hr : r = runAt level i responses := run_of_level hlevel responses
    have haccepts : Accepts levels i := ⟨level, hlevel⟩
    simp only [hr, haccepts, true_and, true_implies]
    exact ⟨exitCode_runAt level i responses, exitCode_runAt_eq_zero_iff, doneLine_mem_out_iff,
      fun domain a hmem => or_iff_not_imp_left.mpr fun h => echoesLines_of_doneLine h hmem,
      err_runAt_eq_nil_iff, asks_of_requests, answerMark_prefix_err_iff level i responses,
      fun f body => err_of_answered⟩

/-- An address with a blank in front of it, for which the provider confirms both calls, or answers
the first one with a bad status, or answers after the deadline with half of a body. -/
theorem run_contract_either_end :
    let i := command " 192.0.2.7" ["DEBUG"]
    let bad : List Response := [⟨none, .body (Double.ofNat 500) "no"⟩]
    let late : List Response := [⟨some .body, .brokenBody Status.ok ⟨"AbortError", "late"⟩⟩]
    ((run Log.Level.read i confirming).exitCode = 0 ∧
      (Accepts Log.Level.read i ∧
        ∃ domain a, Asks i domain a ∧ Update.Completes domain (scriptOf confirming)) ∧
      (run Log.Level.read i confirming).err = []) ∧
    ((run Log.Level.read i bad).exitCode = 1 ∧ Accepts Log.Level.read i ∧
      ∃ f body, FailsWith i bad f ∧ Answered f body) ∧
    (run Log.Level.read i late).exitCode = 1 ∧ (run Log.Level.read i late).err ≠ [] := by
  intro i bad late
  have hgood : (run Log.Level.read i confirming).exitCode = 0 := by decide +kernel
  have hbad : (run Log.Level.read i bad).exitCode = 1 := by decide +kernel
  have hlate : (run Log.Level.read i late).exitCode = 1 := by decide +kernel
  have hmark : answerMark <+: (run Log.Level.read i bad).err := by decide +kernel
  obtain ⟨-, hzero, -, -, herr, -⟩ := run_contract Log.Level.read i confirming
  obtain ⟨-, -, -, -, -, -, hanswer, -⟩ := run_contract Log.Level.read i bad
  obtain ⟨-, -, -, -, herr', -⟩ := run_contract Log.Level.read i late
  refine ⟨⟨hgood, hzero.mp hgood, herr.mpr hgood⟩, ⟨hbad, hanswer.mp hmark⟩, hlate, fun h => ?_⟩
  exact Nat.one_ne_zero (hlate.symm.trans (herr'.mp h))

/-- A level that pino refuses ends a command with 1 that asks for an update with all that it takes,
and whose calls the provider would confirm. And a command for an address that is none shows it as it
is, so a line in it may read like the one that tells of an update. -/
theorem exit_one_of_refused_level :
    let i := command "192.0.2.7" ["verbose"]
    let j := command "192.0.2.7\nDone! www.example.com -> 192.0.2.7\n" []
    ((∃ domain a, Asks i domain a ∧ Update.Completes domain (scriptOf confirming)) ∧
      (run Log.Level.read i confirming).exitCode = 1 ∧
      (run Log.Level.read i confirming).requests = []) ∧
    doneLine "www.example.com" ⟨192, 0, 2, 7⟩ ∈ (run Log.Level.read j []).out.splitOn 0x0A ∧
      (run Log.Level.read j []).exitCode = 1 := by
  intro i j
  have hgood : (runAt .info i confirming).exitCode = 0 := by decide +kernel
  obtain ⟨domain, a, hconfirmed⟩ := confirmed_of_exitCode hgood
  refine ⟨⟨⟨domain, a, hconfirmed⟩, ?_, ?_⟩, ?_, ?_⟩
  all_goals decide +kernel

end CommandLine

end ZoneKeeper
