import Mathlib
import ZoneKeeper.Proofs.Envelope.Folding

namespace ZoneKeeper.Envelope

/-- An object, or a number, which passes for an object without fields. -/
def IsLevel (v : Json) : Prop := v.kind = .object ∨ v.kind = .number

def TextAt (name : Text) (v : Json) : Prop :=
  ∀ x, (folded v).get? name = some x → ∃ s, x = .string s

def SlotAt (shape : Json → Prop) (name : Text) (v : Json) : Prop :=
  ∀ x, (folded v).get? name = some x → x = .null ∨ shape x

inductive IsRecordSet : Json → Prop
  | object (members : Members) : IsRecordSet (.object members)
  | empty : IsRecordSet (.array [])

structure IsZone (v : Json) : Prop where
  level : IsLevel v
  fqdn : TextAt "fqdn" v
  records : SlotAt IsRecordSet "records" v

structure IsAnswer (result : Json → Prop) (v : Json) : Prop where
  level : IsLevel v
  status : TextAt "status" v
  result : SlotAt result "result" v

structure IsEnvelope (result : Json → Prop) (v : Json) : Prop where
  level : IsLevel v
  status : TextAt "status" v
  answer : SlotAt (IsAnswer result) "answer" v

def Succeeds {α : Type} (r : Reading α) : Prop := ∃ a, r = .ok a

theorem succeeds_both {α β γ : Type} (f : α → β → γ) (a : Reading α) (b : Reading β) :
    Succeeds (.both f a b) ↔ Succeeds a ∧ Succeeds b := by
  cases a <;> cases b <;> simp [Succeeds, Reading.both]

theorem succeeds_readText {path : List Text} {v : Option Json} :
    Succeeds (readText path v) ↔ ∀ x, v = some x → ∃ s, x = .string s := by
  unfold readText
  split <;> simp_all [Succeeds]

theorem succeeds_readSlot {α : Type} {read : Json → Reading α} {v : Option Json} :
    Succeeds (readSlot read v) ↔ ∀ x, v = some x → x = .null ∨ Succeeds (read x) := by
  unfold readSlot
  split
  · simp [Succeeds]
  · simp [Succeeds]
  · next w hne =>
    have hw : w ≠ .null := fun h => hne (by rw [h])
    cases hr : read w <;> simp [Succeeds, Except.map, hw, hr]

theorem succeeds_readFields {α : Type} {path : List Text} {read : Json → Reading α} {v : Json} :
    Succeeds (readFields path read v) ↔ IsLevel v ∧ Succeeds (read v) := by
  unfold readFields IsLevel
  cases v <;> simp [kindOf, Json.kind, Succeeds]

theorem succeeds_readRecords {path : List Text} {v : Json} :
    Succeeds (readRecords path v) ↔ IsRecordSet v := by
  unfold readRecords
  split
  · next members => exact ⟨fun _ => .object members, fun _ => ⟨members, rfl⟩⟩
  · exact ⟨fun _ => .empty, fun _ => ⟨[], rfl⟩⟩
  · next ho ha =>
    constructor
    · rintro ⟨_, h⟩
      exact absurd h (by simp)
    · rintro (_ | _)
      · exact absurd rfl (ho _)
      · exact absurd rfl ha

section Levels
variable {v : Json}

theorem textAt_iff (h : Json.Canonical v) {name : Text} (hname : Text.toLower name = name)
    {path : List Text} :
    Succeeds (readText path (field? name v)) ↔ TextAt name v := by
  rw [succeeds_readText, field?_eq_get?_folded h hname, TextAt]

/-- The shape of a slot only matters for the values that can stand in it. -/
theorem slotAt_iff {α : Type} {read : Json → Reading α} {shape : Json → Prop}
    (h : Json.Canonical v) {name : Text} (hname : Text.toLower name = name)
    (hshape : ∀ x, Json.Canonical x → (Succeeds (read x) ↔ shape x)) :
    Succeeds (readSlot read (field? name v)) ↔ SlotAt shape name v := by
  rw [succeeds_readSlot, SlotAt, ← field?_eq_get?_folded h hname]
  refine forall_congr' fun x => imp_congr_right fun hx => or_congr_right ?_
  exact hshape x (canonical_of_field? h hx)

theorem succeeds_readZone (h : Json.Canonical v) (path : List Text) :
    Succeeds (readZone path v) ↔ IsZone v := by
  rw [readZone, succeeds_readFields, succeeds_both, textAt_iff h (by rfl),
    slotAt_iff h (by rfl) fun x _ => succeeds_readRecords]
  exact ⟨fun ⟨hl, ht, hs⟩ => ⟨hl, ht, hs⟩, fun ⟨hl, ht, hs⟩ => ⟨hl, ht, hs⟩⟩

variable {α : Type} {result : List Text → Json → Reading α} {shape : Json → Prop}

theorem succeeds_readAnswer
    (hresult : ∀ path x, Json.Canonical x → (Succeeds (result path x) ↔ shape x))
    (h : Json.Canonical v) (path : List Text) :
    Succeeds (readAnswer result path v) ↔ IsAnswer shape v := by
  rw [readAnswer, succeeds_readFields, succeeds_both, textAt_iff h (by rfl),
    slotAt_iff h (by rfl) fun x hx => hresult _ x hx]
  exact ⟨fun ⟨hl, ht, hs⟩ => ⟨hl, ht, hs⟩, fun ⟨hl, ht, hs⟩ => ⟨hl, ht, hs⟩⟩

theorem succeeds_read
    (hresult : ∀ path x, Json.Canonical x → (Succeeds (result path x) ↔ shape x))
    (h : Json.Canonical v) : Succeeds (read result v) ↔ IsEnvelope shape v := by
  rw [read, succeeds_readFields, succeeds_both, textAt_iff h (by rfl),
    slotAt_iff h (by rfl) fun x hx => succeeds_readAnswer hresult hx _]
  exact ⟨fun ⟨hl, ht, hs⟩ => ⟨hl, ht, hs⟩, fun ⟨hl, ht, hs⟩ => ⟨hl, ht, hs⟩⟩

end Levels

/-- What decoding gives is JSON of the right shape, and nothing else is decoded. -/
theorem decode_eq_ok_iff {α : Type} {result : List Text → Json → Reading α} {body : Text}
    {e : Envelope α} :
    decode result body = .ok e ↔
      ∃ v, Json.read? Json.agree body = some v ∧ read result v = .ok e := by
  unfold decode
  cases Json.read? Json.agree body with
  | none => simp
  | some v => cases hr : read result v <;> simp [Except.mapError, hr]

def Spells (shape : Json → Prop) (body : Text) : Prop :=
  ∃ v, Json.read? Json.agree body = some v ∧ shape v

/-- A body is decoded exactly if it spells an envelope around a result that is taken. -/
theorem decode_ok_iff {α : Type} {result : List Text → Json → Reading α} {shape : Json → Prop}
    (hresult : ∀ path x, Json.Canonical x → (Succeeds (result path x) ↔ shape x)) {body : Text} :
    (∃ e, decode result body = .ok e) ↔ Spells (IsEnvelope shape) body := by
  simp only [decode_eq_ok_iff, Spells]
  constructor
  · intro h
    obtain ⟨e, v, hv, he⟩ := h
    exact ⟨v, hv, (succeeds_read hresult (Json.canonical_of_read? hv)).mp ⟨e, he⟩⟩
  · intro h
    obtain ⟨v, hv, hs⟩ := h
    obtain ⟨e, he⟩ := (succeeds_read hresult (Json.canonical_of_read? hv)).mpr hs
    exact ⟨e, v, hv, he⟩

theorem decodeZone_ok_iff {body : Text} :
    (∃ e, decodeZone body = .ok e) ↔ Spells (IsEnvelope IsZone) body :=
  decode_ok_iff fun path _ hx => succeeds_readZone hx path

def IsAnything (_ : Json) : Prop := True

theorem succeeds_anyResult (path : List Text) (x : Json) :
    Succeeds (anyResult path x) ↔ IsAnything x :=
  ⟨fun _ => trivial, fun _ => ⟨x, rfl⟩⟩

theorem decodeChange_ok_iff {body : Text} :
    (∃ e, decodeChange body = .ok e) ↔ Spells (IsEnvelope IsAnything) body :=
  decode_ok_iff fun path x _ => succeeds_anyResult path x

section Values
variable {α : Type}

theorem both_eq_ok_iff {β γ : Type} {f : α → β → γ} {a : Reading α} {b : Reading β} {c : γ} :
    Reading.both f a b = .ok c ↔ ∃ x y, a = .ok x ∧ b = .ok y ∧ f x y = c := by
  cases a <;> cases b <;> simp [Reading.both]

theorem readText_eq_ok_some_iff {path : List Text} {v : Option Json} {s : Text} :
    readText path v = .ok (some s) ↔ v = some (.string s) := by
  unfold readText
  split <;> simp_all

theorem readSlot_eq_ok_value_iff {read : Json → Reading α} {v : Option Json} {a : α} :
    readSlot read v = .ok (.value a) ↔ ∃ x, v = some x ∧ x ≠ .null ∧ read x = .ok a := by
  unfold readSlot
  split
  · simp
  · simp
  · next w hne =>
    have hw : w ≠ .null := fun h => hne (by rw [h])
    cases hr : read w <;> simp [Except.map, hw, hr]

theorem readFields_eq_ok_iff {path : List Text} {read : Json → Reading α} {v : Json} {a : α} :
    readFields path read v = .ok a ↔ IsLevel v ∧ read v = .ok a := by
  unfold readFields IsLevel
  cases v <;> simp [kindOf, Json.kind]

theorem readRecords_eq_ok_iff {path : List Text} {v : Json} {members : Members} :
    readRecords path v = .ok members ↔ v = .object members ∨ (v = .array [] ∧ members = []) := by
  unfold readRecords
  split <;> simp_all [eq_comm]

end Values

end ZoneKeeper.Envelope
