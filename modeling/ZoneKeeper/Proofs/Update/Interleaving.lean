import Mathlib
import ZoneKeeper.Proofs.Ipv4
import ZoneKeeper.Proofs.Update.Preservation
import ZoneKeeper.Provider

namespace ZoneKeeper.Update
open Envelope RecordSet

/-- The server of a name answers a request, and goes on with a record set. It knows of the request
no more than the text of its address. -/
inductive Serves (target : Text) (set : Members) (url : Text) : Endpoint → Text → Members → Prop
  | read {members : Members} {body : Text} (hurl : endpoint? url = some .getData)
    (hpayload : payload? url = some (.object members))
    (hname : members.get? "fqdn" = some (.string target))
    (hbody : Spells (Clears target set) body) : Serves target set url .getData body set
  | write {members records : Members} {body : Text}
    (hurl : endpoint? url = some .changeRecords)
    (hpayload : payload? url = some (.object members))
    (hname : members.get? "fqdn" = some (.string target))
    (hrecords : members.get? "records" = some (.object records))
    (hbody : Spells Confirms body) : Serves target set url .changeRecords body records

/-- One run: a provider with accepted settings, and a text that has an address in it. -/
structure Job (target : Text) where
  provider : Provider
  blob : Settings.Blob
  domain : Text
  owner : Text
  accepted : Provider.beget? blob domain owner = .ok provider
  target_eq : provider.settings.target = target
  ip : Text
  address : Ipv4
  ip_eq : ip.trim = address.toText
  signalled : Bool

namespace Job
variable {target : Text} (job : Job target)

def dialogue : Dialogue Text := job.provider.update job.ip job.signalled

def record : Text × Json := addressRecord job.provider.settings.priority job.address

def afterRead (records : Members) : Dialogue Text :=
  finish job.provider.settings job.address.toText job.signalled records

theorem isWhole_priority : job.provider.settings.priority.isWhole = true := by
  have h := job.accepted
  unfold Provider.beget? at h
  split at h
  · next s hs =>
    have hp : .beget s = job.provider := Except.ok.inj h
    rw [← hp]
    exact Settings.isWhole_priority hs
  · exact absurd h (by simp)

theorem dialogue_eq :
    job.dialogue = Dialogue.exchange (readCall job.provider.settings job.signalled) >>= fun body =>
      zoneOf target body >>= fun records => job.afterRead records := by
  have hread : Ipv4.read? job.ip = some job.address := Ipv4.read?_eq_some_iff.mpr job.ip_eq
  have hcanonical : canonical job.ip = .ok job.address.toText := by
    simp only [canonical, hread]
  rw [dialogue, Provider.update, update, hcanonical, Dialogue.ofExcept_ok_bind, reconcile_eq,
    job.target_eq]
  rfl

end Job

section Serving
variable {target : Text} {s : Settings} {set set' records : Members} {e : Endpoint}
  {body ip : Text} {signalled : Bool}

theorem canonical_fqdn (t : Text) : Json.Canonical (.object [("fqdn", .string t)]) :=
  Json.canonical_object_iff.mpr (Members.canonical_singleton "fqdn" (.string t))

theorem serves_readCall
    (h : Serves target set (readCall s signalled).url.toText e body set') :
    e = .getData ∧ set' = set ∧ Spells (Clears target set) body := by
  have hendpoint := endpoint?_call s .getData (.object [("fqdn", .string s.target)]) signalled
  cases h with
  | read _ _ _ hbody => exact ⟨rfl, rfl, hbody⟩
  | write hurl =>
    rw [readCall, hendpoint] at hurl
    exact Endpoint.noConfusion (Option.some.inj hurl)

theorem serves_writeCall (hc : records.Canonical)
    (h : Serves target set (writeCall s records ip signalled).url.toText e body set') :
    e = .changeRecords ∧ set' = withAddress records s.priority ip ∧ Spells Confirms body := by
  have hendpoint := endpoint?_call s .changeRecords (change s records ip) signalled
  have hwritten := payload?_writeCall (s := s) hc ip signalled
  cases h with
  | read hurl =>
    rw [writeCall, hendpoint] at hurl
    exact Endpoint.noConfusion (Option.some.inj hurl)
  | write _ hpayload _ hrecords hbody =>
    rw [hwritten, Option.some.injEq] at hpayload
    obtain rfl := Json.object.inj hpayload
    have hset : withAddress records s.priority ip = set' :=
      Json.object.inj (Option.some.inj hrecords)
    exact ⟨rfl, hset.symm, hbody⟩

theorem exists_serves_readCall (signalled : Bool) (hs : s.target = target) (hset : set.Canonical) :
    ∃ body, Serves target set (readCall s signalled).url.toText .getData body set := by
  refine ⟨_, .read (endpoint?_call _ _ _ _) (payload?_call (canonical_fqdn s.target)) ?_
    (spells_cleared hset)⟩
  rw [← hs]
  rfl

theorem exists_serves_writeCall (set : Members) (ip : Text) (signalled : Bool)
    (hs : s.target = target) (hc : records.Canonical) :
    ∃ body, Serves target set (writeCall s records ip signalled).url.toText .changeRecords body
      (withAddress records s.priority ip) := by
  refine ⟨_, .write (endpoint?_call _ _ _ _) (payload?_writeCall hc ip signalled) ?_ rfl
    spells_confirmed⟩
  rw [← hs]
  rfl

end Serving

/-- A run on the client's side. An answer is on its way between the server and the run. -/
structure Run where
  dialogue : Dialogue Text
  inFlight : Option Delivery

/-- Where a run will stand when it has all the answers that were given. -/
def Run.ahead (run : Run) : Pause Text :=
  match run.inFlight, run.dialogue.pause with
  | some d, .waiting _ next => (next d).pause
  | _, p => p

structure World (ι : Type) where
  records : Members
  runs : ι → Run
  /-- Which calls of which runs were processed, the last one first. -/
  history : List (ι × Endpoint)

namespace World
variable {ι : Type} [DecidableEq ι]

def calls (w : World ι) (i : ι) : ℕ := w.history.countP fun call => call.1 = i

def lastWriter (w : World ι) : Option ι :=
  (w.history.find? fun call => call.2 = .changeRecords).map (·.1)

end World

section Runs
variable {ι : Type} [DecidableEq ι] {target : Text}

/-- The server processes a call of one run, or a run receives the answer to its call. The signal of
the run may be aborted meanwhile. -/
inductive Step (target : Text) (w : World ι) : World ι → Prop
  | process {i : ι} {r : Request} {next : Delivery → Dialogue Text} {e : Endpoint} {body : Text}
    {records : Members} (hwait : (w.runs i).dialogue.pause = .waiting r next)
    (hidle : (w.runs i).inFlight = none)
    (hserve : Serves target w.records r.url.toText e body records) (aborted : Bool) :
    Step target w
      ⟨records,
        Function.update w.runs i ⟨(w.runs i).dialogue, some ⟨.body Status.ok body, aborted⟩⟩,
        (i, e) :: w.history⟩
  | receive {i : ι} {r : Request} {next : Delivery → Dialogue Text} {d : Delivery}
    (hwait : (w.runs i).dialogue.pause = .waiting r next) (hflight : (w.runs i).inFlight = some d) :
    Step target w ⟨w.records, Function.update w.runs i ⟨next d, none⟩, w.history⟩

def start (jobs : ι → Job target) (records : Members) : World ι :=
  ⟨records, fun i => ⟨(jobs i).dialogue, none⟩, []⟩

def Reachable (jobs : ι → Job target) (records : Members) (w : World ι) : Prop :=
  Relation.ReflTransGen (Step target) (start jobs records) w

/-- How far a run has come with a number of calls. What it is going to write was read from a set
with the other records of the first one, however old that set may be by now. -/
inductive Stands (job : Job target) (initial : Members) : ℕ → Pause Text → Prop
  | fresh : Stands job initial 0 job.dialogue.pause
  | holding {records : Members} (hc : records.Canonical) (ho : others records = others initial) :
    Stands job initial 1 (job.afterRead records).pause
  | resolved : Stands job initial 2 (.ended (.ok job.address.toText))

theorem pause_dialogue (job : Job target) :
    ∃ next, job.dialogue.pause = .waiting (readCall job.provider.settings job.signalled) next ∧
      ∀ body aborted records, Spells (Clears target records) body →
        (next ⟨.body Status.ok body, aborted⟩).pause = (job.afterRead records).pause := by
  rw [job.dialogue_eq]
  obtain ⟨next, hwait, hnext⟩ := Dialogue.pause_exchange_bind
    (readCall job.provider.settings job.signalled)
    (fun body => zoneOf target body >>= fun records => job.afterRead records)
  refine ⟨next, hwait, fun body aborted records hb => ?_⟩
  rw [hnext, zoneOf_of_clears hb]
  rfl

theorem pause_afterRead (job : Job target) (records : Members) :
    ∃ next, (job.afterRead records).pause =
        .waiting (writeCall job.provider.settings records job.address.toText job.signalled) next ∧
      ∀ body aborted, Spells Confirms body →
        (next ⟨.body Status.ok body, aborted⟩).pause = .ended (.ok job.address.toText) := by
  obtain ⟨next, hwait, hnext⟩ := Dialogue.pause_exchange_bind
    (writeCall job.provider.settings records job.address.toText job.signalled)
    (fun body => confirm body >>= fun _ =>
      Dialogue.log (.updated job.address.toText) (.done job.address.toText))
  refine ⟨next, hwait, fun body aborted hb => ?_⟩
  rw [hnext, confirm_of_confirms hb]
  rfl

structure Invariant (jobs : ι → Job target) (initial : Members) (w : World ι) : Prop where
  others : RecordSet.others w.records = RecordSet.others initial
  unwritten : w.lastWriter = none → w.records = initial
  written : ∀ i, w.lastWriter = some i → addresses w.records = [(jobs i).record]
  stands : ∀ i, Stands (jobs i) initial (w.calls i) (w.runs i).ahead

theorem invariant_start (jobs : ι → Job target) (initial : Members) :
    Invariant jobs initial (start jobs initial) where
  others := rfl
  unwritten _ := rfl
  written i h := absurd h (by simp [World.lastWriter, start])
  stands _ := .fresh

/-- What the processing of one call does to the record set and to the run. -/
inductive Advances (job : Job target) (initial set : Members) (n : ℕ) (after : Pause Text) :
    Endpoint → Members → Prop
  | read (h : Stands job initial (n + 1) after) : Advances job initial set n after .getData set
  | write {records : Members} (h : Stands job initial (n + 1) after)
    (ho : others records = others initial) (ha : addresses records = [job.record]) :
    Advances job initial set n after .changeRecords records

/-- Whichever run is served, it comes one step further, and what it writes keeps the other records
even if the set it was made from is stale. -/
theorem Stands.advances {job : Job target} {initial set set' : Members} {n : ℕ} {r : Request}
    {next : Delivery → Dialogue Text} {e : Endpoint} {body : Text}
    (h : Stands job initial n (.waiting r next))
    (hserve : Serves target set r.url.toText e body set')
    (hset : others set = others initial) (aborted : Bool) :
    Advances job initial set n (next ⟨.body Status.ok body, aborted⟩).pause e set' := by
  generalize hp : Pause.waiting r next = p at h
  cases h with
  | fresh =>
    obtain ⟨next', hwait, hnext⟩ := pause_dialogue job
    obtain ⟨rfl, rfl⟩ := Pause.waiting.inj (hp.trans hwait)
    obtain ⟨rfl, rfl, hbody⟩ := serves_readCall hserve
    rw [hnext body aborted set' hbody]
    exact .read (.holding (Gives.canonical ⟨body, rfl, hbody⟩) hset)
  | @holding records hc ho =>
    obtain ⟨next', hwait, hnext⟩ := pause_afterRead job records
    obtain ⟨rfl, rfl⟩ := Pause.waiting.inj (hp.trans hwait)
    -- The set may have been written since it was read, but never in its other records.
    obtain ⟨rfl, rfl, hbody⟩ := serves_writeCall hc hserve
    rw [hnext body aborted hbody]
    refine .write .resolved ?_ ?_
    · rw [others_withAddress, ho]
    · exact addresses_withAddress hc job.isWhole_priority job.address
  | resolved => exact absurd hp (by simp)

/-- After a call was processed its run has one more, and every other run stands where it stood. -/
theorem stands_update {jobs : ι → Job target} {initial : Members} {w : World ι}
    (h : ∀ j, Stands (jobs j) initial (w.calls j) (w.runs j).ahead) {i : ι} {e : Endpoint}
    {records : Members} {run : Run} (hi : Stands (jobs i) initial (w.calls i + 1) run.ahead)
    (j : ι) :
    Stands (jobs j) initial
      (World.calls ⟨records, Function.update w.runs i run, (i, e) :: w.history⟩ j)
      (Function.update w.runs i run j).ahead := by
  by_cases hj : j = i
  · subst hj
    simpa [World.calls, List.countP_cons] using hi
  · have hne : i ≠ j := fun h => hj h.symm
    rw [Function.update_of_ne hj]
    simpa [World.calls, List.countP_cons, hne] using h j

theorem Invariant.step {jobs : ι → Job target} {initial : Members} {w w' : World ι}
    (h : Invariant jobs initial w) (hstep : Step target w w') : Invariant jobs initial w' := by
  cases hstep with
  | @process i r next e body records hwait hidle hserve aborted =>
    have hahead : (w.runs i).ahead = .waiting r next := by
      rw [Run.ahead, hidle, hwait]
    have hafter : Run.ahead ⟨(w.runs i).dialogue, some ⟨.body Status.ok body, aborted⟩⟩ =
        (next ⟨.body Status.ok body, aborted⟩).pause := by
      rw [Run.ahead, hwait]
    have hi := h.stands i
    rw [hahead] at hi
    cases hi.advances hserve h.others aborted with
    | read hnext =>
      rw [← hafter] at hnext
      exact ⟨h.others, h.unwritten, h.written, stands_update h.stands hnext⟩
    | write hnext ho ha =>
      rw [← hafter] at hnext
      refine ⟨ho, ?_, ?_, stands_update h.stands hnext⟩
      · intro hnone
        exact absurd hnone (by simp [World.lastWriter])
      · intro j hj
        have hij : i = j := by simpa [World.lastWriter] using hj
        rw [ha, hij]
  | @receive i r next d hwait hflight =>
    refine ⟨h.others, h.unwritten, h.written, fun j => ?_⟩
    -- The answer was counted when it was given, so receiving it leads nowhere new.
    have hahead : Run.ahead ⟨next d, none⟩ = (w.runs i).ahead := by
      rw [Run.ahead, Run.ahead, hflight, hwait]
    change Stands (jobs j) initial (w.calls j) (Function.update w.runs i ⟨next d, none⟩ j).ahead
    by_cases hj : j = i
    · subst hj
      rw [Function.update_self, hahead]
      exact h.stands j
    · rw [Function.update_of_ne hj]
      exact h.stands j

theorem Reachable.invariant {jobs : ι → Job target} {initial : Members} {w : World ι}
    (h : Reachable jobs initial w) : Invariant jobs initial w := by
  unfold Reachable at h
  induction h with
  | refl => exact invariant_start jobs initial
  | tail _ hstep ih => exact ih.step hstep

/-- Whatever the order of the calls, no run damages the other records, the address records are those
of the run whose change was processed last, and a run with both answers has come to its address. -/
theorem interleaving_keeps_others {jobs : ι → Job target} {initial : Members} {w : World ι}
    (h : Reachable jobs initial w) :
    others w.records = others initial ∧
      (w.lastWriter = none → w.records = initial) ∧
      (∀ i, w.lastWriter = some i → addresses w.records = [(jobs i).record]) ∧
      ∀ i, w.calls i = 2 → (w.runs i).inFlight = none →
        (w.runs i).dialogue.pause = .ended (.ok (jobs i).address.toText) := by
  have hinv := h.invariant
  refine ⟨hinv.others, hinv.unwritten, hinv.written, fun i hi hidle => ?_⟩
  have hstands := hinv.stands i
  rw [hi, Run.ahead, hidle] at hstands
  generalize hp : (w.runs i).dialogue.pause = p at hstands ⊢
  cases hstands
  rfl

/-- One call of a run is processed and its answer received, while all others wait. -/
structure Turn (target : Text) (w w' : World ι) (i : ι) (e : Endpoint) : Prop where
  steps : Relation.ReflTransGen (Step target) w w'
  history : w'.history = (i, e) :: w.history
  canonical : w'.records.Canonical
  idle : ∀ j, (w.runs j).inFlight = none → (w'.runs j).inFlight = none

theorem exists_turn_of_serves {w : World ι} {i : ι} {r : Request}
    {next : Delivery → Dialogue Text} {e : Endpoint} {body : Text} {records : Members}
    (hwait : (w.runs i).dialogue.pause = .waiting r next) (hidle : (w.runs i).inFlight = none)
    (hserve : Serves target w.records r.url.toText e body records) (hc : records.Canonical) :
    ∃ w', Turn target w w' i e := by
  -- The call is processed and its answer received at once, so nothing is left on its way.
  let d : Delivery := ⟨.body Status.ok body, false⟩
  let given : Run := ⟨(w.runs i).dialogue, some d⟩
  let w₁ : World ι := ⟨records, Function.update w.runs i given, (i, e) :: w.history⟩
  have hgiven : w₁.runs i = given := Function.update_self i given w.runs
  have hfirst : Step target w w₁ := .process hwait hidle hserve false
  have hsecond : Step target w₁
      ⟨records, Function.update w₁.runs i ⟨next d, none⟩, w₁.history⟩ := by
    refine .receive (r := r) ?_ ?_
    · rw [hgiven]
      exact hwait
    · rw [hgiven]
  refine ⟨_, (Relation.ReflTransGen.single hfirst).tail hsecond, rfl, hc, fun j hj => ?_⟩
  by_cases hji : j = i
  · subst hji
    simp
  · simp [w₁, Function.update_of_ne hji, hj]

/-- No run is ever stuck: while it has calls to make, the server can process the next one. -/
theorem Invariant.exists_turn {jobs : ι → Job target} {initial : Members} {w : World ι}
    (h : Invariant jobs initial w) (hc : w.records.Canonical) {i : ι}
    (hidle : (w.runs i).inFlight = none) (hcalls : w.calls i < 2) :
    ∃ w', Turn target w w' i (if w.calls i = 0 then .getData else .changeRecords) := by
  have hstands := h.stands i
  rw [Run.ahead, hidle] at hstands
  generalize hp : (w.runs i).dialogue.pause = p at hstands
  generalize hn : w.calls i = n at hstands hcalls
  cases hstands with
  | fresh =>
    obtain ⟨next, hwait, -⟩ := pause_dialogue (jobs i)
    obtain ⟨body, hserve⟩ := exists_serves_readCall (jobs i).signalled (jobs i).target_eq hc
    exact exists_turn_of_serves (hp.trans hwait) hidle hserve hc
  | @holding records hrecords =>
    obtain ⟨next, hwait, -⟩ := pause_afterRead (jobs i) records
    obtain ⟨body, hserve⟩ := exists_serves_writeCall w.records (jobs i).address.toText
      (jobs i).signalled (jobs i).target_eq hrecords
    exact exists_turn_of_serves (hp.trans hwait) hidle hserve
      (hrecords.insert _ (canonical_addressRecords _ _))
  | resolved => omega

end Runs

/-- Two runs read before either of them writes. The later write wins, and both come to an end. -/
theorem interleaving_keeps_others_stale_read :
    let initial : Members := [("TXT", .array [.string "kept"])]
    ∃ (jobs : Bool → Job "www.example.com") (w : World Bool),
      Reachable jobs initial w ∧
      w.history = [(true, .changeRecords), (false, .changeRecords), (true, .getData),
        (false, .getData)] ∧
      (jobs false).address = ⟨192, 0, 2, 1⟩ ∧ (jobs true).address = ⟨192, 0, 2, 2⟩ ∧
      others w.records = initial ∧ addresses w.records = [(jobs true).record] ∧
      ∀ i, (w.runs i).dialogue.pause = .ended (.ok (jobs i).address.toText) := by
  intro initial
  let blob : Settings.Blob := .value (.object [("login", .string "me"),
    ("password", .string "pw"), ("domain", .string "www.example.com")])
  obtain ⟨s, hs, ht⟩ : ∃ s, Settings.ofBlob blob "example.com" "www" = .ok s ∧
      s.target = "www.example.com" := Settings.exists_of_target (by decide +kernel)
  have haccepted : Provider.beget? blob "example.com" "www" = .ok (.beget s) := by
    rw [Provider.beget?, hs]
  let job (ip : Text) (a : Ipv4) (h : ip.trim = a.toText) : Job "www.example.com" :=
    ⟨.beget s, blob, "example.com", "www", haccepted, ht, ip, a, h, false⟩
  let jobs : Bool → Job "www.example.com"
    | false => job "192.0.2.1" ⟨192, 0, 2, 1⟩ (by decide +kernel)
    | true => job " 192.0.2.2 " ⟨192, 0, 2, 2⟩ (by decide +kernel)
  have hinitial : initial.Canonical :=
    Members.canonical_singleton "TXT" (.array (by simpa using .string _))
  -- Both runs read, and then both write.
  have h₀ : Reachable jobs initial (start jobs initial) := .refl
  obtain ⟨w₁, t₁⟩ := h₀.invariant.exists_turn (i := false) hinitial rfl
    (by simp [World.calls, start])
  have h₁ : Reachable jobs initial w₁ := h₀.trans t₁.steps
  obtain ⟨w₂, t₂⟩ := h₁.invariant.exists_turn (i := true) t₁.canonical (t₁.idle _ rfl)
    (by simp [World.calls, t₁.history, start])
  have h₂ : Reachable jobs initial w₂ := h₁.trans t₂.steps
  obtain ⟨w₃, t₃⟩ := h₂.invariant.exists_turn (i := false) t₂.canonical
    (t₂.idle _ (t₁.idle _ rfl)) (by simp [World.calls, t₂.history, t₁.history, start])
  have h₃ : Reachable jobs initial w₃ := h₂.trans t₃.steps
  obtain ⟨w₄, t₄⟩ := h₃.invariant.exists_turn (i := true) t₃.canonical
    (t₃.idle _ (t₂.idle _ (t₁.idle _ rfl)))
    (by simp [World.calls, t₃.history, t₂.history, t₁.history, start])
  have h₄ : Reachable jobs initial w₄ := h₃.trans t₄.steps
  have hhistory : w₄.history = [(true, .changeRecords), (false, .changeRecords),
      (true, .getData), (false, .getData)] := by
    simp [World.calls, t₄.history, t₃.history, t₂.history, t₁.history, start]
  obtain ⟨ho, -, ha, hend⟩ := interleaving_keeps_others h₄
  refine ⟨jobs, w₄, h₄, hhistory, rfl, rfl, ho, ha true ?_, fun i => hend i ?_ ?_⟩
  · simp [World.lastWriter, hhistory]
  · cases i <;> simp [World.calls, hhistory]
  · exact t₄.idle _ (t₃.idle _ (t₂.idle _ (t₁.idle _ rfl)))

end ZoneKeeper.Update
