import Mathlib
import ZoneKeeper.Failure
import ZoneKeeper.Proofs.Envelope.Gate

namespace ZoneKeeper.Envelope

def typeName : Json → Text
  | .null => "null"
  | .bool _ => "boolean"
  | .number _ | .object _ => "object"
  | .string _ => "string"
  | .array _ => "array"

def wantsObject : Json → Option Text
  | .object _ | .number _ => none
  | v => some ("Expected object, received " ++ typeName v)

def wantsText : Json → Option Text
  | .string _ => none
  | v => some ("Expected string, received " ++ typeName v)

/-- Records are an object and not a number, or an empty list. -/
def wantsRecords : Json → Option Text
  | .object _ | .array [] => none
  | _ => some "Invalid input"

def orNull (wants : Json → Option Text) : Json → Option Text
  | .null => none
  | v => wants v

/-- A place in an answer, its name in complaints, and what is said of a value it does not take. -/
structure Place where
  label : Text
  path : List Text
  complaint? : Json → Option Text

def outerPlaces : List Place :=
  [⟨"(root)", [], wantsObject⟩,
    ⟨"status", ["status"], wantsText⟩,
    ⟨"answer", ["answer"], orNull wantsObject⟩,
    ⟨"answer.status", ["answer", "status"], wantsText⟩]

def resultPlaces : List Place :=
  [⟨"answer.result", ["answer", "result"], orNull wantsObject⟩,
    ⟨"answer.result.fqdn", ["answer", "result", "fqdn"], wantsText⟩,
    ⟨"answer.result.records", ["answer", "result", "records"], orNull wantsRecords⟩]

/-- The places of the answers of an endpoint. Nothing is asked of the result of a change. -/
def places : Endpoint → List Place
  | .getData => outerPlaces ++ resultPlaces
  | .changeRecords => outerPlaces

/-- The complaint about the value that folding keeps in a place, with the name of the place. -/
def complaintAt? (v : Json) (p : Place) : Option Text :=
  (under? p.path v).bind fun x => (p.complaint? x).map fun said => p.label ++ ": " ++ said

def complaintsAt (ps : List Place) (v : Json) : List Text := ps.filterMap (complaintAt? v)

def complaints (e : Endpoint) (v : Json) : List Text := complaintsAt (places e) v

def shapeReport (e : Endpoint) (body : Text) (said : List Text) : Report where
  kind := .decoding e (some body) (some .badShape)
  message := "Beget: " ++ e.name ++ ": unexpected response shape: " ++ Text.join "; " said

def reportOf {α : Type} (e : Endpoint) (body : Text) :
    Except (Json.Rejection Fault) (Envelope α) → Option Report
  | .ok _ => none
  | .error r => some (Failure.undecodable e body r).report

/-- How the decoder of an endpoint reports a body, if it does not decode it. -/
def report? (body : Text) : Endpoint → Option Report
  | .getData => reportOf .getData body (decodeZone body)
  | .changeRecords => reportOf .changeRecords body (decodeChange body)

section Places

theorem complaintsAt_cons (p : Place) (ps : List Place) (v : Json) :
    complaintsAt (p :: ps) v = (complaintAt? v p).toList ++ complaintsAt ps v := by
  unfold complaintsAt
  rw [List.filterMap_cons]
  cases complaintAt? v p <;> rfl

theorem complaintsAt_append (ps qs : List Place) (v : Json) :
    complaintsAt (ps ++ qs) v = complaintsAt ps v ++ complaintsAt qs v :=
  List.filterMap_append

def Place.below (name : Text) (p : Place) : Place := { p with path := name :: p.path }

/-- Places below a name are complained of as places of the value under the name. -/
theorem complaintsAt_below (name : Text) (ps : List Place) (v : Json) :
    complaintsAt (ps.map (Place.below name)) v =
      (under? [name] v).elim [] (complaintsAt ps) := by
  have hpath : ∀ p : Place, complaintAt? v (p.below name) =
      (under? [name] v).bind fun x => complaintAt? x p := by
    intro p
    simp only [complaintAt?, Place.below, under?_cons name p.path, Option.bind_assoc]
  cases h : under? [name] v with
  | none => simp [complaintsAt, List.filterMap_map, hpath, h]
  | some x => simp [complaintsAt, List.filterMap_map, hpath, h]

theorem complaintsAt_of_folded_eq_nil {v : Json} (h : folded v = []) {ps : List Place}
    (hps : ∀ p ∈ ps, p.path ≠ []) : complaintsAt ps v = [] := by
  unfold complaintsAt
  rw [List.filterMap_eq_nil_iff]
  intro p hp
  obtain ⟨name, path, hpath⟩ := List.exists_cons_of_ne_nil (hps p hp)
  have hnone : under? [name] v = none := by
    rw [under?_singleton, h]
    rfl
  rw [complaintAt?, hpath, under?_cons, hnone]
  rfl

end Places

/-- A reading succeeds with nothing to tell, or fails with faults that are told by these texts. -/
inductive Tells {α : Type} : Reading α → List Text → Prop
  | done (a : α) : Tells (.ok a) []
  | faults {found : List Fault} (h : found ≠ []) : Tells (.error found) (found.map Fault.toText)

namespace Tells
variable {α β γ : Type}

theorem both {f : α → β → γ} {a : Reading α} {b : Reading β} {s t : List Text} (ha : Tells a s)
    (hb : Tells b t) : Tells (.both f a b) (s ++ t) := by
  cases ha with
  | done x =>
    cases hb with
    | done y => exact .done (f x y)
    | faults h => exact .faults h
  | faults h =>
    cases hb with
    | done y =>
      rw [List.append_nil]
      exact .faults h
    | faults h' =>
      rw [← List.map_append]
      exact .faults (List.append_ne_nil_of_left_ne_nil h _)

theorem map {r : Reading α} {t : List Text} (h : Tells r t) (f : α → β) : Tells (r.map f) t := by
  cases h with
  | done a => exact .done (f a)
  | faults h => exact .faults h

theorem single {f : Fault} {label said : Text} (hplace : f.place = label)
    (hsaid : f.message = said) :
    Tells (.error [f] : Reading α) [label ++ ": " ++ said] := by
  subst hplace hsaid
  exact .faults (List.cons_ne_nil f [])

end Tells

section Readings
variable {α β : Type} {v : Json}

theorem tells_readText {path : List Text} {label : Text} (name : Text)
    (hlabel : ∀ problem, (Fault.mk path problem).place = label) :
    Tells (readText path (under? [name] v)) (complaintsAt [⟨label, [name], wantsText⟩] v) := by
  rw [complaintsAt_cons, complaintAt?]
  cases under? [name] v with
  | none => exact .done none
  | some x =>
    cases x with
    | string s => exact .done (some s)
    | null => exact .single (hlabel _) rfl
    | bool b => exact .single (hlabel _) rfl
    | number source => exact .single (hlabel _) rfl
    | array items => exact .single (hlabel _) rfl
    | object members => exact .single (hlabel _) rfl

theorem tells_readRecords {path : List Text} {label : Text}
    (hlabel : ∀ problem, (Fault.mk path problem).place = label) (x : Json) :
    Tells (readRecords path x) (complaintsAt [⟨label, [], wantsRecords⟩] x) := by
  cases x with
  | object members => exact .done members
  | array items =>
    cases items with
    | nil => exact .done []
    | cons item items => exact .single (hlabel _) rfl
  | null => exact .single (hlabel _) rfl
  | bool b => exact .single (hlabel _) rfl
  | number source => exact .single (hlabel _) rfl
  | string s => exact .single (hlabel _) rfl

/-- A slot that is absent or null has nothing to tell, and no place below it is complained of. -/
theorem tells_readSlot {read : Json → Reading α} {ps : List Place} (name : Text)
    (hnull : complaintsAt ps .null = [])
    (hread : ∀ x, under? [name] v = some x → x ≠ .null → Tells (read x) (complaintsAt ps x)) :
    Tells (readSlot read (under? [name] v)) (complaintsAt (ps.map (Place.below name)) v) := by
  rw [complaintsAt_below]
  cases h : under? [name] v with
  | none => exact .done Slot.absent
  | some x =>
    by_cases hx : x = .null
    · subst hx
      rw [Option.elim_some, hnull]
      exact .done Slot.null
    · have hslot : readSlot read (some x) = (read x).map .value := by
        cases x with
        | null => exact absurd rfl hx
        | _ => rfl
      rw [hslot]
      exact (hread x h hx).map Slot.value

theorem complaintsAt_orNull {x : Json} (h : x ≠ .null) (label : Text) (wants : Json → Option Text)
    (ps : List Place) :
    complaintsAt (⟨label, [], orNull wants⟩ :: ps) x =
      complaintsAt (⟨label, [], wants⟩ :: ps) x := by
  rw [complaintsAt_cons, complaintsAt_cons]
  cases x with
  | null => exact absurd rfl h
  | _ => rfl

/-- The places of a level: the level itself, its text, and those of the value in its slot. -/
def levelPlaces (label : Text) (wants : Json → Option Text) (textLabel textName slotName : Text)
    (inner : List Place) : List Place :=
  ⟨label, [], wants⟩ :: ⟨textLabel, [textName], wantsText⟩ :: inner.map (Place.below slotName)

section Levels
variable {label textLabel textName slotName : Text} {ps : List Place}

theorem complaintsAt_levelPlaces (h : folded v = []) (wants : Json → Option Text) :
    complaintsAt (levelPlaces label wants textLabel textName slotName ps) v =
      (complaintAt? v ⟨label, [], wants⟩).toList := by
  rw [levelPlaces, complaintsAt_cons, complaintsAt_of_folded_eq_nil h, List.append_nil]
  simp [Place.below]

theorem complaintsAt_levelPlaces_null (wants : Json → Option Text) :
    complaintsAt (levelPlaces label (orNull wants) textLabel textName slotName ps) .null = [] := by
  rw [complaintsAt_levelPlaces rfl]
  rfl

/-- A level tells of itself if it has no fields, and else of its text and of its slot. -/
theorem tells_readLevel {mk : Option Text → Slot α → β} {read : Json → Reading α}
    {path textPath : List Text} (hv : Json.Canonical v) (htext : Text.toLower textName = textName)
    (hslot : Text.toLower slotName = slotName)
    (hlabel : ∀ problem, (Fault.mk path problem).place = label)
    (htextLabel : ∀ problem, (Fault.mk textPath problem).place = textLabel)
    (hnull : complaintsAt ps .null = [])
    (hread : ∀ x, Json.Canonical x → x ≠ .null → Tells (read x) (complaintsAt ps x)) :
    Tells
      (readFields path (fun v => .both mk (readText textPath (field? textName v))
        (readSlot read (field? slotName v))) v)
      (complaintsAt (levelPlaces label wantsObject textLabel textName slotName ps) v) := by
  have hfields : Tells
      (.both mk (readText textPath (field? textName v)) (readSlot read (field? slotName v)))
      (complaintsAt [⟨textLabel, [textName], wantsText⟩] v ++
        complaintsAt (ps.map (Place.below slotName)) v) := by
    rw [field?_eq_under? hv htext, field?_eq_under? hv hslot]
    apply Tells.both (tells_readText textName htextLabel)
    apply tells_readSlot slotName hnull
    intro x hx hne
    rw [← field?_eq_under? hv hslot] at hx
    exact hread x (canonical_of_field? hv hx) hne
  rw [← complaintsAt_append] at hfields
  -- An object and a number have fields; all other values are told of themselves.
  cases v with
  | object members => exact hfields
  | number source => exact hfields
  | null => rw [complaintsAt_levelPlaces rfl]; exact .single (hlabel _) rfl
  | bool b => rw [complaintsAt_levelPlaces rfl]; exact .single (hlabel _) rfl
  | string s => rw [complaintsAt_levelPlaces rfl]; exact .single (hlabel _) rfl
  | array items => rw [complaintsAt_levelPlaces rfl]; exact .single (hlabel _) rfl

end Levels

def answerPlaces (inner : List Place) : List Place :=
  levelPlaces "answer" (orNull wantsObject) "answer.status" "status" "result" inner

def zonePlaces : List Place :=
  levelPlaces "answer.result" (orNull wantsObject) "answer.result.fqdn" "fqdn" "records"
    [⟨"answer.result.records", [], orNull wantsRecords⟩]

def envelopePlaces (inner : List Place) : List Place :=
  levelPlaces "(root)" wantsObject "status" "status" "answer" (answerPlaces inner)

theorem tells_readZone (hv : Json.Canonical v) (hne : v ≠ .null) :
    Tells (readZone ["answer", "result"] v) (complaintsAt zonePlaces v) := by
  rw [zonePlaces, levelPlaces, complaintsAt_orNull hne]
  apply tells_readLevel hv rfl rfl (fun _ => rfl) (fun _ => rfl) rfl
  intro x _ hx
  rw [complaintsAt_orNull hx]
  exact tells_readRecords (fun _ => rfl) x

variable {result : List Text → Json → Reading α} {inner : List Place}

/-- An envelope tells what is told of its result, wherever that stands. -/
theorem tells_read (hv : Json.Canonical v) (hnull : complaintsAt inner .null = [])
    (hresult : ∀ x, Json.Canonical x → x ≠ .null →
      Tells (result ["answer", "result"] x) (complaintsAt inner x)) :
    Tells (read result v) (complaintsAt (envelopePlaces inner) v) := by
  apply tells_readLevel hv rfl rfl (fun _ => rfl) (fun _ => rfl) (complaintsAt_levelPlaces_null _)
  intro x hx hne
  rw [levelPlaces, complaintsAt_orNull hne]
  exact tells_readLevel hx rfl rfl (fun _ => rfl) (fun _ => rfl) hnull hresult

end Readings

section Reports
variable {body : Text} {v : Json}

theorem message_undecodable (e : Endpoint) (body : Text) (found : List Fault) :
    (Failure.undecodable e body (.faults found)).report =
      shapeReport e body (found.map Fault.toText) := by
  have hfront : Failure.place Api.label e ++ Text.ofString "unexpected response shape: " =
      Text.ofString "Beget: " ++ e.name ++ Text.ofString ": unexpected response shape: " := by
    cases e <;> decide +kernel
  simp only [Failure.report, Failure.kind, Failure.message, shapeReport, hfront]

theorem reportOf_decode {α : Type} {result : List Text → Json → Reading α} (e : Endpoint)
    (h : Json.read? Json.agree body = some v) {said : List Text}
    (hsaid : Tells (read result v) said) :
    reportOf e body (decode result body) =
      if said = [] then none else some (shapeReport e body said) := by
  simp only [decode, h]
  generalize read result v = r at hsaid
  cases hsaid with
  | done a => rfl
  | faults hne =>
    rw [if_neg (by simpa using hne), ← message_undecodable]
    rfl

/-- A body that is JSON is decoded exactly if none of its places is complained of. Else the report
has the body, and all complaints in the order of the places. -/
theorem report?_eq_complaints (e : Endpoint) (h : Json.read? Json.agree body = some v) :
    report? body e =
      if complaints e v = [] then none else some (shapeReport e body (complaints e v)) := by
  have hv : Json.Canonical v := Json.canonical_of_read? h
  cases e with
  | getData =>
    have hread : Tells (read readZone v) (complaintsAt (envelopePlaces zonePlaces) v) :=
      tells_read hv (complaintsAt_levelPlaces_null _) fun x hx hne => tells_readZone hx hne
    exact reportOf_decode .getData h hread
  | changeRecords =>
    have hread : Tells (read anyResult v) (complaintsAt (envelopePlaces []) v) :=
      tells_read hv rfl fun x _ _ => .done x
    exact reportOf_decode .changeRecords h hread

end Reports

set_option maxRecDepth 4000 in
/-- Three complaints at two levels, in spite of the spelling of a name. -/
theorem report?_eq_complaints_nested :
    let zone : Json := .object [("FQDN", .null), ("records", .array [.number "0"])]
    let v : Json := .object [("status", .number "1.0"), ("answer", .object [("result", zone)])]
    let said : List Text := ["status: Expected string, received object",
      "answer.result.fqdn: Expected string, received null", "answer.result.records: Invalid input"]
    Json.read? Json.agree v.write = some v ∧ complaints .getData v = said ∧
      report? v.write .getData = some (shapeReport .getData v.write said) := by
  intro zone v said
  have hzero : Json.Canonical (.number "0") :=
    .number (Json.isNumeral_of_readNumber (t := "0") rfl)
  have hone : Json.Canonical (.number "1.0") :=
    .number (Json.isNumeral_of_readNumber (t := "1.0") rfl)
  have hzone : Json.Canonical zone :=
    .object (by decide +kernel) (by simpa using ⟨.null, .array (by simpa using hzero)⟩)
  have hanswer : Json.Canonical (.object [("result", zone)]) :=
    Json.canonical_object_iff.mpr (Members.canonical_singleton "result" hzone)
  have hv : Json.Canonical v := .object (by decide +kernel) (by simpa using ⟨hone, hanswer⟩)
  have hread : Json.read? Json.agree v.write = some v := Json.read?_write hv
  have hsaid : complaints .getData v = said := by decide +kernel
  refine ⟨hread, hsaid, ?_⟩
  rw [report?_eq_complaints .getData hread, hsaid]
  rfl

end ZoneKeeper.Envelope
