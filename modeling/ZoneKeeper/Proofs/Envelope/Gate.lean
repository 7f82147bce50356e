import Mathlib
import ZoneKeeper.Proofs.Envelope.Shape
import ZoneKeeper.Proofs.Json.RoundTrip

namespace ZoneKeeper.Envelope

/-- The value that folding keeps below a path of field names. -/
def under? (path : List Text) (v : Json) : Option Json :=
  path.foldlM (fun w name => (folded w).get? name) v

theorem under?_singleton (name : Text) (v : Json) : under? [name] v = (folded v).get? name := by
  simp [under?]

theorem under?_cons (name : Text) (path : List Text) (v : Json) :
    under? (name :: path) v = (under? [name] v).bind (under? path) := by
  rw [under?_singleton]
  rfl

theorem under?_cons_eq_some_iff {name : Text} {path : List Text} {v y : Json} :
    under? (name :: path) v = some y ↔ ∃ x, under? [name] v = some x ∧ under? path x = some y := by
  rw [under?_cons, Option.bind_eq_some_iff]

/-- A success that is reported at both levels. -/
structure IsSuccess (v : Json) : Prop where
  outer : under? ["status"] v = some (.string Api.success)
  inner : under? ["answer", "status"] v = some (.string Api.success)

/-- The answer lets the record set of the target be written, and it holds these records. -/
structure Clears (target : Text) (records : Members) (v : Json) : Prop extends IsSuccess v where
  shape : IsEnvelope IsZone v
  fqdn : under? ["answer", "result", "fqdn"] v = some (.string target)
  records : under? ["answer", "result", "records"] v = some (.object records) ∨
    under? ["answer", "result", "records"] v = some (.array []) ∧ records = []

/-- The answer confirms a change. -/
structure Confirms (v : Json) : Prop extends IsSuccess v where
  shape : IsEnvelope IsAnything v

def ShapeOf : Endpoint → Json → Prop
  | .getData => IsEnvelope IsZone
  | .changeRecords => IsEnvelope IsAnything

def Passes (target : Text) : Endpoint → Json → Prop
  | .getData => fun v => ∃ records, Clears target records v
  | .changeRecords => Confirms

theorem Passes.shapeOf {target : Text} {e : Endpoint} {v : Json} (h : Passes target e v) :
    ShapeOf e v := by
  cases e with
  | getData =>
    obtain ⟨records, h⟩ := h
    exact h.shape
  | changeRecords => exact Confirms.shape h

theorem ne_null_of_under? {name : Text} {v x : Json} (h : under? [name] v = some x) :
    v ≠ .null := by
  rintro rfl
  rw [under?_singleton] at h
  exact absurd h (by simp [folded, Members.get?])

section Readings
variable {α : Type} {v : Json}

theorem field?_eq_under? (h : Json.Canonical v) {name : Text} (hname : Text.toLower name = name) :
    field? name v = under? [name] v := by
  rw [field?_eq_get?_folded h hname, under?_singleton]

theorem canonical_of_under? (h : Json.Canonical v) {path : List Text}
    (hpath : ∀ name ∈ path, Text.toLower name = name) {x : Json} (hx : under? path v = some x) :
    Json.Canonical x := by
  induction path generalizing v with
  | nil => exact Option.some.inj hx ▸ h
  | cons name path ih =>
    obtain ⟨hname, hpath⟩ := List.forall_mem_cons.mp hpath
    obtain ⟨w, hw, hx⟩ := under?_cons_eq_some_iff.mp hx
    rw [← field?_eq_under? h hname] at hw
    exact ih (canonical_of_field? h hw) hpath hx

theorem readZone_eq_ok_iff (h : Json.Canonical v) {path : List Text} {target : Text}
    {records : Members} :
    readZone path v = .ok ⟨some target, .value records⟩ ↔
      IsLevel v ∧ under? ["fqdn"] v = some (.string target) ∧
        (under? ["records"] v = some (.object records) ∨
          under? ["records"] v = some (.array []) ∧ records = []) := by
  rw [readZone, readFields_eq_ok_iff, both_eq_ok_iff, field?_eq_under? h (by rfl),
    field?_eq_under? h (by rfl)]
  refine and_congr_right fun _ => ?_
  constructor
  · rintro ⟨x, y, hx, hy, hz⟩
    obtain ⟨rfl, rfl⟩ := Zone.mk.inj hz
    obtain ⟨w, hw, -, hr⟩ := readSlot_eq_ok_value_iff.mp hy
    refine ⟨readText_eq_ok_some_iff.mp hx, ?_⟩
    rcases readRecords_eq_ok_iff.mp hr with rfl | ⟨rfl, hnil⟩
    · exact Or.inl hw
    · exact Or.inr ⟨hw, hnil⟩
  · rintro ⟨ht, hr⟩
    refine ⟨_, _, readText_eq_ok_some_iff.mpr ht, readSlot_eq_ok_value_iff.mpr ?_, rfl⟩
    rcases hr with hr | ⟨hr, hnil⟩
    · exact ⟨_, hr, by simp, readRecords_eq_ok_iff.mpr (Or.inl rfl)⟩
    · exact ⟨_, hr, by simp, readRecords_eq_ok_iff.mpr (Or.inr ⟨rfl, hnil⟩)⟩

variable {result : List Text → Json → Reading α}

theorem readAnswer_eq_ok_iff (h : Json.Canonical v) {path : List Text} {status : Text}
    {slot : Slot α} :
    readAnswer result path v = .ok ⟨some status, slot⟩ ↔
      IsLevel v ∧ under? ["status"] v = some (.string status) ∧
        readSlot (result (below path "result")) (under? ["result"] v) = .ok slot := by
  rw [readAnswer, readFields_eq_ok_iff, both_eq_ok_iff, field?_eq_under? h (by rfl),
    field?_eq_under? h (by rfl)]
  refine and_congr_right fun _ => ?_
  constructor
  · rintro ⟨x, y, hx, hy, hz⟩
    obtain ⟨rfl, rfl⟩ := Answer.mk.inj hz
    exact ⟨readText_eq_ok_some_iff.mp hx, hy⟩
  · rintro ⟨ht, hr⟩
    exact ⟨_, _, readText_eq_ok_some_iff.mpr ht, hr, rfl⟩

theorem read_eq_ok_iff (h : Json.Canonical v) {status inner : Text} {slot : Slot α} :
    read result v = .ok ⟨some status, .value ⟨some inner, slot⟩⟩ ↔
      IsLevel v ∧ under? ["status"] v = some (.string status) ∧
        ∃ x, under? ["answer"] v = some x ∧ IsLevel x ∧ under? ["status"] x = some (.string inner) ∧
          readSlot (result ["answer", "result"]) (under? ["result"] x) = .ok slot := by
  rw [read, readFields_eq_ok_iff, both_eq_ok_iff, field?_eq_under? h (by rfl),
    field?_eq_under? h (by rfl)]
  refine and_congr_right fun _ => ?_
  constructor
  · rintro ⟨x, y, hx, hy, hz⟩
    obtain ⟨rfl, rfl⟩ := Envelope.mk.inj hz
    obtain ⟨a, ha, -, hread⟩ := readSlot_eq_ok_value_iff.mp hy
    have hac := canonical_of_under? h (by decide +kernel) ha
    exact ⟨readText_eq_ok_some_iff.mp hx, a, ha, (readAnswer_eq_ok_iff hac).mp hread⟩
  · rintro ⟨ht, a, ha, hanswer⟩
    have hac := canonical_of_under? h (by decide +kernel) ha
    have hread : readAnswer result ["answer"] a = .ok ⟨some inner, slot⟩ :=
      (readAnswer_eq_ok_iff hac).mpr hanswer
    exact ⟨_, _, readText_eq_ok_some_iff.mpr ht,
      readSlot_eq_ok_value_iff.mpr ⟨a, ha, ne_null_of_under? hanswer.2.1, hread⟩, rfl⟩

end Readings

section Gates
variable {v : Json}

theorem SlotAt.shape {shape : Json → Prop} {name inner : Text} (h : SlotAt shape name v)
    {x y : Json} (hx : under? [name] v = some x) (hy : under? [inner] x = some y) : shape x := by
  rw [under?_singleton] at hx
  exact (h x hx).resolve_left (ne_null_of_under? hy)

def cleared (target : Text) (records : Members) : Envelope Zone where
  status := some Api.success
  answer := .value ⟨some Api.success, .value ⟨some target, .value records⟩⟩

theorem clears_iff (h : Json.Canonical v) {target : Text} {records : Members} :
    read readZone v = .ok (cleared target records) ↔ Clears target records v := by
  have hshape := succeeds_read (fun path x hx => succeeds_readZone hx path) h
  constructor
  · intro hread
    obtain ⟨-, houter, a, ha, -, hinner, hslot⟩ := (read_eq_ok_iff h).mp hread
    have hac := canonical_of_under? h (by decide +kernel) ha
    obtain ⟨z, hz, -, hzone⟩ := readSlot_eq_ok_value_iff.mp hslot
    obtain ⟨-, hfqdn, hrecords⟩ :=
      (readZone_eq_ok_iff (canonical_of_under? hac (by decide +kernel) hz)).mp hzone
    refine ⟨⟨houter, ?_⟩, hshape.mp ⟨_, hread⟩, ?_, ?_⟩
    · simp [under?_cons _ [_], ha, hinner]
    · simp [under?_cons _ [_], under?_cons _ [_, _], ha, hz, hfqdn]
    · simpa [under?_cons _ [_], under?_cons _ [_, _], ha, hz] using hrecords
  · intro hc
    -- The status below the answer shows that the answer is there and no null, the name that the
    -- result is.
    obtain ⟨a, ha, hinner⟩ := under?_cons_eq_some_iff.mp hc.inner
    have hanswer := hc.shape.answer.shape ha hinner
    have hac := canonical_of_under? h (by decide +kernel) ha
    have hfqdn := hc.fqdn
    rw [under?_cons, ha, Option.bind_some] at hfqdn
    obtain ⟨z, hz, hname⟩ := under?_cons_eq_some_iff.mp hfqdn
    have hzone := hanswer.result.shape hz hname
    have hrecords := hc.records
    simp only [under?_cons _ [_, _], under?_cons _ [_], ha, hz, Option.bind_some] at hrecords
    refine (read_eq_ok_iff h).mpr ⟨hc.shape.level, hc.outer, a, ha, hanswer.level, hinner, ?_⟩
    refine readSlot_eq_ok_value_iff.mpr ⟨z, hz, ne_null_of_under? hname, ?_⟩
    exact (readZone_eq_ok_iff (canonical_of_under? hac (by decide +kernel) hz)).mpr
      ⟨hzone.level, hname, hrecords⟩

theorem Clears.canonical (h : Json.Canonical v) {target : Text} {records : Members}
    (hc : Clears target records v) : records.Canonical := by
  rcases hc.records with hr | ⟨-, rfl⟩
  · exact Json.canonical_object_iff.mp (canonical_of_under? h (by decide +kernel) hr)
  · exact Members.canonical_nil

/-- An answer clears one record set at most. -/
theorem Clears.unique (h : Json.Canonical v) {target : Text} {records records' : Members}
    (hc : Clears target records v) (hc' : Clears target records' v) : records = records' := by
  have hread := (clears_iff h).mpr hc
  rw [(clears_iff h).mpr hc'] at hread
  simp only [cleared, Except.ok.injEq, Envelope.mk.injEq, Slot.value.injEq, Answer.mk.injEq,
    Zone.mk.injEq, true_and] at hread
  exact hread.symm

theorem succeeded_iff {α : Type} (e : Envelope α) :
    e.succeeded = true ↔ ∃ slot, e = ⟨some Api.success, .value ⟨some Api.success, slot⟩⟩ := by
  obtain ⟨status, answer⟩ := e
  cases answer with
  | absent => simp [succeeded]
  | null => simp [succeeded]
  | value a =>
    obtain ⟨inner, slot⟩ := a
    simp [succeeded]

/-- The name that an answer to reading is about. -/
def answered? (e : Envelope Zone) : Option Text :=
  match e.answer with
  | .value ⟨_, .value zone⟩ => zone.fqdn
  | _ => none

theorem confirms_iff (h : Json.Canonical v) :
    (∃ slot, read anyResult v = .ok ⟨some Api.success, .value ⟨some Api.success, slot⟩⟩) ↔
      Confirms v := by
  have hshape := succeeds_read (fun path x _ => succeeds_anyResult path x) h
  constructor
  · rintro ⟨slot, hread⟩
    obtain ⟨-, houter, a, ha, -, hinner, -⟩ := (read_eq_ok_iff h).mp hread
    refine ⟨⟨houter, ?_⟩, hshape.mp ⟨_, hread⟩⟩
    simp [under?_cons _ [_], ha, hinner]
  · intro hc
    obtain ⟨a, ha, hinner⟩ := under?_cons_eq_some_iff.mp hc.inner
    have hanswer := hc.shape.answer.shape ha hinner
    have hslot : Succeeds (readSlot (anyResult ["answer", "result"]) (under? ["result"] a)) :=
      succeeds_readSlot.mpr fun x _ => Or.inr ((succeeds_anyResult _ x).mpr trivial)
    obtain ⟨slot, hslot⟩ := hslot
    exact ⟨slot, (read_eq_ok_iff h).mpr
      ⟨hc.shape.level, hc.outer, a, ha, hanswer.level, hinner, hslot⟩⟩

theorem spells_cleared {target : Text} {records : Members} (h : records.Canonical) :
    Spells (Clears target records) (toJson zoneJson (cleared target records)).write := by
  have hzone := Members.canonical_pair "fqdn" "records" (by decide +kernel)
    (.string target) (Json.canonical_object_iff.mpr h)
  have hanswer := Members.canonical_pair "status" "result" (by decide +kernel)
    (.string Api.success) (Json.canonical_object_iff.mpr hzone)
  have hwhole := Members.canonical_pair "status" "answer" (by decide +kernel)
    (.string Api.success) (Json.canonical_object_iff.mpr hanswer)
  have hc : Json.Canonical (toJson zoneJson (cleared target records)) :=
    Json.canonical_object_iff.mpr hwhole
  have hread : read readZone (toJson zoneJson (cleared target records)) =
    .ok (cleared target records) := rfl
  exact ⟨_, Json.read?_write hc, (clears_iff hc).mp hread⟩

def confirmed : Envelope Json where
  status := some Api.success
  answer := .value ⟨some Api.success, .absent⟩

theorem spells_confirmed : Spells Confirms (toJson id confirmed).write := by
  have hanswer := Members.canonical_singleton "status" (.string Api.success)
  have hwhole := Members.canonical_pair "status" "answer" (by decide +kernel)
    (.string Api.success) (Json.canonical_object_iff.mpr hanswer)
  have hc : Json.Canonical (toJson id confirmed) := Json.canonical_object_iff.mpr hwhole
  have hread : read anyResult (toJson id confirmed) = .ok confirmed := rfl
  exact ⟨_, Json.read?_write hc, (confirms_iff hc).mp ⟨.absent, hread⟩⟩

end Gates

end ZoneKeeper.Envelope
