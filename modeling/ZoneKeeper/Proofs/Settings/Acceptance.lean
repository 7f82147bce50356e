import Mathlib
import ZoneKeeper.Failure
import ZoneKeeper.Proofs.Double.Value
import ZoneKeeper.Proofs.Settings

namespace ZoneKeeper.Settings

/-- The value that a blob stands for, if it is no text that fails to be JSON. There is no value at
all where the blob is missing. -/
def Blob.contents : Blob → Option (Option Json)
  | missing => some none
  | text t | value (.string t) => (Json.read? (fun _ _ => true) t).map some
  | bytes bs => (Json.read? (fun _ _ => true) (Utf8.decode bs)).map some
  | value v => some (some v)

/-- A field, and what is said of the value it has, or of its having none. -/
structure Field where
  name : Text
  objection? : Option Json → Option Text

def textField (name : Text) (refuse : Text → Option Text) : Field where
  name := name
  objection?
    | none => some (name ++ " is required")
    | some (.string s) => refuse s
    | some _ => some (name ++ " must be a string")

def credentialField (name : Text) : Field :=
  textField name fun s => if s = [] then some (name ++ " is required") else none

def domainField : Field :=
  textField "domain" fun s =>
    if Domain.isValid s then none else some ("domain \"" ++ s ++ "\" is not valid")

def priorityField : Field where
  name := "priority"
  objection?
    | none => none
    | some (.number source) =>
      if (Double.ofDecimal? source).any Double.isWhole then none
      else some "priority must be an integer"
    | some _ => some "priority must be an integer"

def fields : List Field :=
  [credentialField "login", credentialField "password", domainField, priorityField]

def objections : Option Json → List Text
  | none => ["Required"]
  | some (.object members) => fields.filterMap fun f => f.objection? (Members.get? members f.name)
  | some v => ["Expected object, received " ++ v.kind.name]

def noJsonReport : Report where
  kind := .configuration [] (some .noJson)
  message := "Beget: settings are not valid JSON"

def objectionReport (said : List Text) : Report where
  kind := .configuration said (some .badShape)
  message := "Beget: " ++ Text.join "; " said

/-- The report of what a blob stands for, if there is something to be said of it. -/
def ruling : Option (Option Json) → Option Report
  | none => some noJsonReport
  | some v => if objections v = [] then none else some (objectionReport (objections v))

def report? (blob : Blob) (domain owner : Text) : Option Report :=
  match ofBlob blob domain owner with
  | .ok _ => none
  | .error r => some (Failure.settings r).report

/-- The priority that a field gives: zero if it is left out, and else the double nearest to a
number, where that is an integer. -/
inductive IsPriority : Option Json → Double → Prop
  | absent : IsPriority none (.ofNat 0)
  | number {source : Text} {d : Double} (h : Double.ofDecimal? source = some d)
      (hd : d.IsInteger) : IsPriority (some (.number source)) d

/-- The members of an object say these settings. -/
structure Describes (members : Members) (s : Settings) : Prop where
  login : members.get? "login" = some (.string s.login)
  login_ne_nil : s.login ≠ []
  password : members.get? "password" = some (.string s.password)
  password_ne_nil : s.password ≠ []
  target : members.get? "domain" = some (.string s.target)
  isValid_target : Domain.isValid s.target = true
  priority : IsPriority (members.get? "priority") s.priority

section Fields
variable {v : Option Json} {name t : Text} {d : Double}

theorem readString_eq_ok_iff : readString name v = .ok t ↔ v = some (.string t) := by
  cases v with
  | none => simp [readString]
  | some x => cases x <;> simp [readString]

theorem readString_bind_eq_ok_iff {check : Text → Except Fault Text} :
    readString name v >>= check = .ok t ↔ ∃ s, v = some (.string s) ∧ check s = .ok t := by
  have hread (s : Text) : readString name v = .ok s ↔ v = some (.string s) := readString_eq_ok_iff
  simp only [← hread]
  cases readString name v with
  | error f => simp [bind, Except.bind]
  | ok s => simp [bind, Except.bind]

theorem readCredential_eq_ok_iff :
    readCredential name v = .ok t ↔ v = some (.string t) ∧ t ≠ [] := by
  rw [readCredential, readString_bind_eq_ok_iff]
  constructor
  · intro ⟨s, hs, hcheck⟩
    split_ifs at hcheck with hempty
    obtain rfl := Except.ok.inj hcheck
    exact ⟨hs, hempty⟩
  · intro ⟨hs, hne⟩
    exact ⟨t, hs, if_neg hne⟩

theorem readDomain_eq_ok_iff :
    readDomain v = .ok t ↔ v = some (.string t) ∧ Domain.isValid t = true := by
  rw [readDomain, readString_bind_eq_ok_iff]
  constructor
  · intro ⟨s, hs, hcheck⟩
    split_ifs at hcheck with hvalid
    obtain rfl := Except.ok.inj hcheck
    exact ⟨hs, hvalid⟩
  · intro ⟨hs, hvalid⟩
    exact ⟨t, hs, if_pos hvalid⟩

theorem checkPriority_eq_ok_iff {d' : Double} :
    checkPriority d' = .ok d ↔ d' = d ∧ d.IsInteger := by
  rw [checkPriority, ← Double.isWhole_iff]
  constructor
  · intro h
    split_ifs at h with hwhole
    obtain rfl := Except.ok.inj h
    exact ⟨rfl, hwhole⟩
  · rintro ⟨rfl, hwhole⟩
    exact if_pos hwhole

theorem readPriority_eq_ok_iff : readPriority v = .ok d ↔ IsPriority v d := by
  constructor
  · intro h
    unfold readPriority at h
    split at h
    · obtain rfl := Except.ok.inj h
      exact .absent
    · next source =>
      obtain ⟨hd, hint⟩ := checkPriority_eq_ok_iff.mp h
      cases hs : Double.ofDecimal? source with
      | none =>
        rw [hs] at hd
        subst hd
        obtain ⟨n, hn⟩ := hint
        exact absurd hn (by simp [Double.value?])
      | some d' =>
        rw [hs] at hd
        obtain rfl : d' = d := hd
        exact .number hs hint
    · exact absurd h (by simp)
  · intro h
    cases h with
    | absent => rfl
    | number hs hint =>
      rw [readPriority, hs]
      exact checkPriority_eq_ok_iff.mpr ⟨rfl, hint⟩

end Fields

/-- A part of the settings and what is said of its field agree: it was read or one thing is said. -/
inductive Agrees {α : Type} : Except Fault α → Option Text → Prop
  | done (a : α) : Agrees (.ok a) none
  | fault (f : Fault) : Agrees (.error f) (some f.message)

theorem Agrees.toList_eq {α : Type} {r : Except Fault α} {said : Option Text}
    (h : Agrees r said) : said.toList = (faultOf r).map Fault.message := by
  cases h <;> rfl

section Tables
variable (v : Option Json)

theorem agrees_readString_bind {name : Text} {check : Text → Except Fault Text}
    {refuse : Text → Option Text} (h : ∀ s, Agrees (check s) (refuse s)) :
    Agrees (readString name v >>= check) ((textField name refuse).objection? v) := by
  cases v with
  | none => exact .fault (.required name)
  | some x =>
    cases x with
    | string s => exact h s
    | null => exact .fault (.noString name)
    | bool b => exact .fault (.noString name)
    | number source => exact .fault (.noString name)
    | array items => exact .fault (.noString name)
    | object members => exact .fault (.noString name)

theorem agrees_readCredential (name : Text) :
    Agrees (readCredential name v) ((credentialField name).objection? v) := by
  apply agrees_readString_bind
  intro s
  by_cases hs : s = []
  · simp only [if_pos hs]
    exact .fault (.required name)
  · simp only [if_neg hs]
    exact .done s

theorem agrees_readDomain : Agrees (readDomain v) (domainField.objection? v) := by
  apply agrees_readString_bind
  intro s
  by_cases hs : Domain.isValid s = true
  · simp only [if_pos hs]
    exact .done s
  · simp only [if_neg hs]
    exact .fault (.badDomain s)

theorem agrees_readPriority : Agrees (readPriority v) (priorityField.objection? v) := by
  cases v with
  | none => exact .done _
  | some x =>
    cases x with
    | number source =>
      have hwhole : ((Double.ofDecimal? source).getD .nan).isWhole =
          (Double.ofDecimal? source).any Double.isWhole := by
        cases Double.ofDecimal? source <;> rfl
      simp only [readPriority, checkPriority, priorityField, hwhole]
      split_ifs with h
      · exact .done _
      · exact .fault .badPriority
    | null => exact .fault .badPriority
    | bool b => exact .fault .badPriority
    | string s => exact .fault .badPriority
    | array items => exact .fault .badPriority
    | object members => exact .fault .badPriority

end Tables

section Objects
variable {domain owner : Text}

theorem ofParts_eq_ok_iff_parts {login password target : Except Fault Text}
    {priority : Except Fault Double} {s : Settings} :
    ofParts domain owner login password target priority = .ok s ↔
      login = .ok s.login ∧ password = .ok s.password ∧ target = .ok s.target ∧
        priority = .ok s.priority ∧ s.domain = domain ∧ s.owner = owner := by
  constructor
  · intro h
    unfold ofParts at h
    split at h
    · obtain rfl := Except.ok.inj h
      exact ⟨rfl, rfl, rfl, rfl, rfl, rfl⟩
    · exact absurd h (by simp)
  · rintro ⟨rfl, rfl, rfl, rfl, rfl, rfl⟩
    rfl

/-- Where settings cannot be made, the faults of all parts are found, and there are some. -/
theorem faults_ofParts {login password target : Except Fault Text} {priority : Except Fault Double}
    {found : List Fault} (h : ofParts domain owner login password target priority = .error found) :
    found = faultOf login ++ faultOf password ++ faultOf target ++ faultOf priority ∧
      found ≠ [] := by
  unfold ofParts at h
  split at h
  · exact absurd h (by simp)
  · next hparts =>
    obtain rfl := Except.error.inj h
    refine ⟨rfl, ?_⟩
    intro hnone
    simp only [List.append_eq_nil_iff] at hnone
    have hok : ∀ {α : Type} (r : Except Fault α), faultOf r = [] → ∃ a, r = .ok a := by
      intro α r hr
      cases r with
      | ok a => exact ⟨a, rfl⟩
      | error f => exact absurd hr (List.cons_ne_nil f [])
    obtain ⟨l, hl⟩ := hok login hnone.1.1.1
    obtain ⟨p, hp⟩ := hok password hnone.1.1.2
    obtain ⟨t, ht⟩ := hok target hnone.1.2
    obtain ⟨d, hd⟩ := hok priority hnone.2
    exact hparts l p t d hl hp ht hd

variable {members : Members}

theorem ofMembers_eq_ok_iff {s : Settings} :
    ofMembers members domain owner = .ok s ↔
      Describes members s ∧ s.domain = domain ∧ s.owner = owner := by
  rw [ofMembers, ofParts_eq_ok_iff_parts, readCredential_eq_ok_iff, readCredential_eq_ok_iff,
    readDomain_eq_ok_iff, readPriority_eq_ok_iff]
  constructor
  · intro ⟨hl, hp, ht, hd, hdomain, howner⟩
    exact ⟨⟨hl.1, hl.2, hp.1, hp.2, ht.1, ht.2, hd⟩, hdomain, howner⟩
  · intro ⟨h, hdomain, howner⟩
    exact ⟨⟨h.login, h.login_ne_nil⟩, ⟨h.password, h.password_ne_nil⟩,
      ⟨h.target, h.isValid_target⟩, h.priority, hdomain, howner⟩

theorem objections_object (members : Members) :
    objections (some (.object members)) =
      (faultOf (readCredential "login" (members.get? "login")) ++
        faultOf (readCredential "password" (members.get? "password")) ++
        faultOf (readDomain (members.get? "domain")) ++
        faultOf (readPriority (members.get? "priority"))).map Fault.message := by
  have hcons : ∀ (f : Field) (fs : List Field),
      (f :: fs).filterMap (fun f => f.objection? (members.get? f.name)) =
        (f.objection? (members.get? f.name)).toList ++
          fs.filterMap fun f => f.objection? (members.get? f.name) := by
    intro f fs
    rw [List.filterMap_cons]
    cases f.objection? (members.get? f.name) <;> rfl
  simp only [objections, fields, hcons, List.filterMap_nil, List.append_nil, List.map_append,
    ← (agrees_readCredential _ _).toList_eq, ← (agrees_readDomain _).toList_eq,
    ← (agrees_readPriority _).toList_eq, List.append_assoc]
  rfl

theorem ofJson_cases (v : Option Json) (domain owner : Text) :
    (∃ s, ofJson v domain owner = .ok s ∧ objections v = []) ∨
      ∃ found, ofJson v domain owner = .error found ∧ found ≠ [] ∧
        objections v = found.map Fault.message := by
  cases v with
  | none => exact Or.inr ⟨_, rfl, List.cons_ne_nil _ _, rfl⟩
  | some x =>
    cases x with
    | object members =>
      rw [objections_object]
      cases h : ofMembers members domain owner with
      | ok s =>
        obtain ⟨hl, hp, ht, hd, -⟩ := ofParts_eq_ok_iff_parts.mp h
        refine Or.inl ⟨s, h, ?_⟩
        rw [hl, hp, ht, hd]
        rfl
      | error found =>
        obtain ⟨hfound, hne⟩ := faults_ofParts h
        exact Or.inr ⟨found, h, hne, congrArg (List.map Fault.message) hfound.symm⟩
    | null => exact Or.inr ⟨_, rfl, List.cons_ne_nil _ _, rfl⟩
    | bool b => exact Or.inr ⟨_, rfl, List.cons_ne_nil _ _, rfl⟩
    | number source => exact Or.inr ⟨_, rfl, List.cons_ne_nil _ _, rfl⟩
    | string s => exact Or.inr ⟨_, rfl, List.cons_ne_nil _ _, rfl⟩
    | array items => exact Or.inr ⟨_, rfl, List.cons_ne_nil _ _, rfl⟩

end Objects

section Blobs
variable (blob : Blob) (domain owner : Text)

theorem json?_eq :
    blob.json? = blob.contents.elim (.error .noJson) .ok := by
  have hparse : ∀ t, Blob.json?.parse t =
      ((Json.read? (fun _ _ => true) t).map some).elim (.error .noJson) .ok := by
    intro t
    unfold Blob.json?.parse
    cases Json.read? (fun _ _ => true) t <;> rfl
  cases blob with
  | missing => rfl
  | text t => exact hparse t
  | bytes bs => exact hparse (Utf8.decode bs)
  | value v =>
    cases v with
    | string t => exact hparse t
    | null => rfl
    | bool b => rfl
    | number source => rfl
    | array items => rfl
    | object members => rfl

theorem ofBlob_eq :
    ofBlob blob domain owner =
      blob.contents.elim (.error .noJson) fun v => (ofJson v domain owner).mapError .faults := by
  rw [ofBlob, json?_eq]
  cases blob.contents <;> rfl

theorem report_noJson : (Failure.settings .noJson).report = noJsonReport := by decide +kernel

theorem report_faults (found : List Fault) :
    (Failure.settings (.faults found)).report = objectionReport (found.map Fault.message) := by
  have hfront : Api.label ++ Text.ofString ": " = Text.ofString "Beget: " := by decide +kernel
  simp only [Failure.report, Failure.kind, Failure.message, Failure.issues, hfront,
    objectionReport]

theorem report?_eq_ruling : report? blob domain owner = ruling blob.contents := by
  rw [report?, ofBlob_eq]
  cases blob.contents with
  | none => exact congrArg some report_noJson
  | some v =>
    rw [Option.elim_some]
    rcases ofJson_cases v domain owner with ⟨s, hs, hsaid⟩ | ⟨found, hfound, hne, hsaid⟩
    · rw [ruling, hs, if_pos hsaid]
      rfl
    · have hsome : objections v ≠ [] := by simpa [hsaid] using hne
      rw [ruling, hfound, if_neg hsome, hsaid, ← report_faults]
      rfl

theorem ofBlob_eq_ok_iff {s : Settings} :
    ofBlob blob domain owner = .ok s ↔
      ∃ members, blob.contents = some (some (.object members)) ∧ Describes members s ∧
        s.domain = domain ∧ s.owner = owner := by
  constructor
  · intro h
    obtain ⟨members, hjson, hs⟩ := ofBlob_eq_ok h
    refine ⟨members, ?_, ofMembers_eq_ok_iff.mp hs⟩
    rw [json?_eq] at hjson
    cases hcontents : blob.contents with
    | none => exact absurd hjson (by simp [hcontents])
    | some v =>
      rw [hcontents] at hjson
      exact congrArg some (Except.ok.inj hjson)
  · intro ⟨members, hcontents, h⟩
    rw [ofBlob_eq, hcontents, Option.elim_some]
    show (ofMembers members domain owner).mapError _ = _
    rw [ofMembers_eq_ok_iff.mpr h]
    rfl

/-- Only the members of the table count. -/
theorem ofMembers_congr {members members' : Members}
    (h : ∀ f ∈ fields, members.get? f.name = members'.get? f.name) :
    ofMembers members domain owner = ofMembers members' domain owner := by
  simp only [fields, List.forall_mem_cons] at h
  obtain ⟨hl, hp, ht, hd, -⟩ := h
  have hlogin : members.get? "login" = members'.get? "login" := hl
  have hpassword : members.get? "password" = members'.get? "password" := hp
  have htarget : members.get? "domain" = members'.get? "domain" := ht
  have hpriority : members.get? "priority" = members'.get? "priority" := hd
  rw [ofMembers, ofMembers, hlogin, hpassword, htarget, hpriority]

/-- A blob gives settings exactly if it stands for an object whose members say them, and then they
are these settings. Else it is reported: as no JSON, as no object, or with what is said of each
field, in the order of the table. Other members than those of the table count for nothing. -/
theorem settings_or_objections :
    (∀ s, ofBlob blob domain owner = .ok s ↔
      ∃ members, blob.contents = some (some (.object members)) ∧ Describes members s ∧
        s.domain = domain ∧ s.owner = owner) ∧
    report? blob domain owner = ruling blob.contents ∧
    ∀ members members' : Members, blob.contents = some (some (.object members)) →
      (∀ f ∈ fields, members.get? f.name = members'.get? f.name) →
      ofBlob blob domain owner = ofBlob (.value (.object members')) domain owner := by
  refine ⟨fun s => ofBlob_eq_ok_iff blob domain owner, report?_eq_ruling blob domain owner, ?_⟩
  intro members members' hcontents hget
  rw [ofBlob_eq, ofBlob_eq, hcontents]
  show (ofMembers members domain owner).mapError _ = (ofMembers members' domain owner).mapError _
  rw [ofMembers_congr domain owner hget]

end Blobs

end ZoneKeeper.Settings
