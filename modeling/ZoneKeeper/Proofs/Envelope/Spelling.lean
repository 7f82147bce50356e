import Mathlib
import ZoneKeeper.Proofs.Envelope.Shape
import ZoneKeeper.Proofs.Json.RoundTrip

namespace ZoneKeeper

namespace Text

/-- The lower case of one unit, as far as it matters to names in ASCII. Two signs outside ASCII have
a letter of ASCII in their lower case; all other units outside stay outside. -/
inductive UnitLowers : CodeUnit → Text → Prop
  | ascii {u : CodeUnit} (h : u < 0x80) : UnitLowers u [u.toLower]
  | kelvin : UnitLowers 0x212A [0x6B]
  | dotted : UnitLowers 0x0130 [0x69, 0x0307]
  | outside {u : CodeUnit} {t : Text} (h : 0x80 ≤ u) (hne : t ≠ []) (ht : ∀ v ∈ t, 0x80 ≤ v) :
    UnitLowers u t

inductive Lowers : Text → Text → Prop
  | nil : Lowers [] []
  | cons {u : CodeUnit} {l t s : Text} (hu : UnitLowers u l) (ht : Lowers t s) :
    Lowers (u :: t) (l ++ s)

/-- A unit whose lower case is in ASCII and has no `k` is in ASCII itself. -/
theorem UnitLowers.eq_toLower {u : CodeUnit} {l : Text} (h : UnitLowers u l)
    (hascii : ∀ v ∈ l, v < 0x80) (hk : 0x6B ∉ l) : u < 0x80 ∧ l = [u.toLower] := by
  cases h with
  | ascii h => exact ⟨h, rfl⟩
  | kelvin => exact absurd List.mem_cons_self hk
  | dotted => exact absurd (hascii 0x0307 (by simp)) (by decide)
  | outside _ hne ht =>
    obtain ⟨v, r, rfl⟩ := List.exists_cons_of_ne_nil hne
    have hlow := hascii v List.mem_cons_self
    have hhigh := ht v List.mem_cons_self
    rw [UInt16.lt_iff_toNat_lt] at hlow
    rw [UInt16.le_iff_toNat_le] at hhigh
    omega

theorem Lowers.eq_toLower {t s : Text} (h : Lowers t s) (hascii : ∀ v ∈ s, v < 0x80)
    (hk : 0x6B ∉ s) : (∀ u ∈ t, u < 0x80) ∧ toLower t = s := by
  induction h with
  | nil => exact ⟨fun u hu => absurd hu List.not_mem_nil, rfl⟩
  | cons hu _ ih =>
    obtain ⟨hlt, rfl⟩ := hu.eq_toLower (fun v hv => hascii v (by simp [hv]))
      (fun hm => hk (by simp [hm]))
    obtain ⟨hrest, rfl⟩ := ih (fun v hv => hascii v (by simp [hv])) (fun hm => hk (by simp [hm]))
    exact ⟨List.forall_mem_cons.mpr ⟨hlt, hrest⟩, rfl⟩

theorem lowers_toLower {t : Text} (h : ∀ u ∈ t, u < 0x80) : Lowers t (toLower t) := by
  induction t with
  | nil => exact .nil
  | cons u t ih =>
    obtain ⟨hu, ht⟩ := List.forall_mem_cons.mp h
    exact .cons (.ascii hu) (ih ht)

theorem ascii_of_toLower {t : Text} (h : ∀ v ∈ toLower t, v < 0x80) : ∀ u ∈ t, u < 0x80 := by
  intro u hu
  have hlow := h u.toLower (List.mem_map.mpr ⟨u, hu, rfl⟩)
  unfold CodeUnit.toLower at hlow
  split_ifs at hlow with hupper
  · simp only [CodeUnit.isUpper, Bool.and_eq_true, decide_eq_true_eq,
      UInt16.le_iff_toNat_le] at hupper
    rw [UInt16.lt_iff_toNat_lt]
    simp at hupper ⊢
    omega
  · exact hlow

end Text

namespace Envelope

def fieldNames : List Text := ["status", "answer", "result", "fqdn", "records"]

theorem fieldName_ascii {name : Text} (h : name ∈ fieldNames) :
    (∀ u ∈ name, u < 0x80) ∧ 0x6B ∉ name ∧ Text.toLower name = name := by
  have hall : (fieldNames.all fun name =>
      name.all (· < 0x80) && !name.contains 0x6B && (Text.toLower name = name : Bool)) = true := by
    decide +kernel
  simpa [and_assoc] using List.all_eq_true.mp hall name h

theorem lowers_iff {name : Text} (h : name ∈ fieldNames) {key : Text} :
    Text.Lowers key name ↔ Text.toLower key = name := by
  obtain ⟨hascii, hk, -⟩ := fieldName_ascii h
  constructor
  · intro hl
    exact (hl.eq_toLower hascii hk).2
  · rintro rfl
    exact Text.lowers_toLower (Text.ascii_of_toLower hascii)

/-- What the members of a level hold under the name of a field. A member with exactly this name
decides, whatever other spellings stand before or after it; without one the first spelling does. -/
inductive Holds (members : Members) (name : Text) : Option Json → Prop
  | nothing (h : ∀ m ∈ members, ¬ Text.Lowers m.1 name) : Holds members name none
  | exactly {v : Json} (h : (name, v) ∈ members) : Holds members name (some v)
  | first {before after : Members} {key : Text} {v : Json}
    (hmembers : members = before ++ (key, v) :: after) (hkey : Text.Lowers key name)
    (hbefore : ∀ m ∈ before, ¬ Text.Lowers m.1 name) (hother : ∀ m ∈ members, m.1 ≠ name) :
    Holds members name (some v)

/-- The members that a value lists. A number passes for an object without any. -/
inductive Lists : Json → Members → Prop
  | object (members : Members) : Lists (.object members) members
  | number (source : Text) : Lists (.number source) []

inductive WritesText : Option Text → Option Json → Prop
  | absent : WritesText none none
  | string (s : Text) : WritesText (some s) (some (.string s))

inductive WritesSlot {α : Type} (writes : α → Json → Prop) : Slot α → Option Json → Prop
  | absent : WritesSlot writes .absent none
  | null : WritesSlot writes .null (some .null)
  | value {a : α} {v : Json} (hne : v ≠ .null) (h : writes a v) :
    WritesSlot writes (.value a) (some v)

/-- A level of an envelope: a text under one name and a slot under another. -/
def WritesLevel {α : Type} (textName slotName : Text) (writes : α → Json → Prop)
    (text : Option Text) (slot : Slot α) (v : Json) : Prop :=
  ∃ members x y, Lists v members ∧ Holds members textName x ∧ WritesText text x ∧
    Holds members slotName y ∧ WritesSlot writes slot y

/-- Records are written as themselves, and no records also as an empty list. -/
inductive WritesRecords : Members → Json → Prop
  | object (records : Members) : WritesRecords records (.object records)
  | empty : WritesRecords [] (.array [])

def WritesZone (zone : Zone) : Json → Prop :=
  WritesLevel "fqdn" "records" WritesRecords zone.fqdn zone.records

def WritesAnswer (a : Answer Zone) : Json → Prop :=
  WritesLevel "status" "result" WritesZone a.status a.result

def WritesEnvelope (e : Envelope Zone) : Json → Prop :=
  WritesLevel "status" "answer" WritesAnswer e.status e.answer

section Lookup
variable {members : Members} {name : Text} (hname : name ∈ fieldNames)
include hname

theorem holds_field? : Holds members name (field? name (.object members)) := by
  simp only [field?]
  cases hexact : members.find? fun m => decide (m.1 = name) with
  | some m =>
    have hm := List.mem_of_find?_eq_some hexact
    have he : m.1 = name := by simpa using List.find?_some hexact
    exact .exactly (by rw [← he]; exact hm)
  | none =>
    have hother : ∀ m ∈ members, m.1 ≠ name := by simpa using hexact
    dsimp only
    cases hfirst : members.find? fun m => decide (Text.toLower m.1 = name) with
    | none =>
      refine .nothing fun m hm => ?_
      rw [lowers_iff hname]
      simpa using List.find?_eq_none.mp hfirst m hm
    | some m =>
      obtain ⟨hkey, before, after, hmembers, hbefore⟩ := List.find?_eq_some_iff_append.mp hfirst
      refine .first hmembers ((lowers_iff hname).mpr (by simpa using hkey)) (fun n hn => ?_) hother
      rw [lowers_iff hname]
      simpa using hbefore n hn

theorem field?_of_holds (ho : members.Ordered) {x : Option Json} (h : Holds members name x) :
    field? name (.object members) = x := by
  have hl : ∀ key, Text.Lowers key name ↔ Text.toLower key = name := fun _ => lowers_iff hname
  simp only [field?]
  cases h with
  | nothing h =>
    have hfirst : ∀ m ∈ members, ¬ Text.toLower m.1 = name := fun m hm => (hl m.1).not.mp (h m hm)
    have hexact : ∀ m ∈ members, ¬ m.1 = name := by
      intro m hm he
      exact hfirst m hm (by rw [he, (fieldName_ascii hname).2.2])
    rw [List.find?_eq_none.mpr (by simpa using hexact),
      List.find?_eq_none.mpr (by simpa using hfirst)]
    rfl
  | exactly h => rw [ho.find?_eq_some h]
  | first hmembers hkey hbefore hother =>
    have hexact : members.find? (fun m => decide (m.1 = name)) = none := by simpa using hother
    rw [hexact]
    dsimp only
    rw [List.find?_eq_some_iff_append.mpr ⟨by simpa using (hl _).mp hkey, _, _, hmembers,
      fun m hm => by simpa using (hl m.1).not.mp (hbefore m hm)⟩]
    rfl

end Lookup

section Readings
variable {α : Type} {v : Json}

theorem isLevel_iff : IsLevel v ↔ ∃ members, Lists v members := by
  constructor
  · intro h
    cases v with
    | object members => exact ⟨members, .object members⟩
    | number source => exact ⟨[], .number source⟩
    | _ => simp [IsLevel, Json.kind] at h
  · rintro ⟨members, h⟩
    cases h with
    | object => exact Or.inl rfl
    | number => exact Or.inr rfl

theorem holds_nil {name : Text} {x : Option Json} : Holds [] name x ↔ none = x := by
  constructor
  · intro h
    cases h with
    | nothing => rfl
    | exactly h => exact absurd h List.not_mem_nil
    | first h => simp at h
  · rintro rfl
    exact .nothing fun m hm => absurd hm List.not_mem_nil

theorem Lists.field?_eq_iff {members : Members} (h : Lists v members) (hv : Json.Canonical v)
    {name : Text} (hname : name ∈ fieldNames) {x : Option Json} :
    field? name v = x ↔ Holds members name x := by
  cases h with
  | object =>
    constructor
    · rintro rfl
      exact holds_field? hname
    · exact field?_of_holds hname (Json.canonical_object_iff.mp hv).ordered
  | number => exact holds_nil.symm

theorem readText_eq_ok_iff {path : List Text} {x : Option Json} {text : Option Text} :
    readText path x = .ok text ↔ WritesText text x := by
  constructor
  · intro h
    unfold readText at h
    split at h
    · obtain rfl := Except.ok.inj h
      exact .absent
    · obtain rfl := Except.ok.inj h
      exact .string _
    · exact absurd h (by simp)
  · intro h
    cases h <;> rfl

theorem readSlot_eq_ok_iff {read : Json → Reading α} {writes : α → Json → Prop}
    {x : Option Json} {slot : Slot α}
    (hread : ∀ w, x = some w → ∀ a, read w = .ok a ↔ writes a w) :
    readSlot read x = .ok slot ↔ WritesSlot writes slot x := by
  constructor
  · intro h
    unfold readSlot at h
    split at h
    · obtain rfl := Except.ok.inj h
      exact .absent
    · obtain rfl := Except.ok.inj h
      exact .null
    · next w hne =>
      cases hr : read w with
      | error faults => exact absurd h (by simp [hr, Except.map])
      | ok a =>
        rw [hr] at h
        obtain rfl := Except.ok.inj h
        exact .value (fun he => hne (by rw [he])) ((hread w rfl a).mp hr)
  · intro h
    cases h with
    | absent => rfl
    | null => rfl
    | value hne h => exact readSlot_eq_ok_value_iff.mpr ⟨_, rfl, hne, (hread _ rfl _).mpr h⟩

/-- A level is read exactly as it is written, if the value of its slot is. -/
theorem readLevel_eq_ok_iff {β : Type} {mk : Option Text → Slot α → β}
    (hmk : ∀ {t t' s s'}, mk t s = mk t' s' → t = t' ∧ s = s') {read : Json → Reading α}
    {writes : α → Json → Prop} {textName slotName : Text} (htext : textName ∈ fieldNames)
    (hslot : slotName ∈ fieldNames)
    (hread : ∀ w, Json.Canonical w → ∀ a, read w = .ok a ↔ writes a w) (hv : Json.Canonical v)
    {path textPath : List Text} {text : Option Text} {slot : Slot α} :
    readFields path (fun v => .both mk (readText textPath (field? textName v))
        (readSlot read (field? slotName v))) v = .ok (mk text slot) ↔
      WritesLevel textName slotName writes text slot v := by
  have hvalue : ∀ w, field? slotName v = some w → ∀ a, read w = .ok a ↔ writes a w :=
    fun w hw => hread w (canonical_of_field? hv hw)
  rw [readFields_eq_ok_iff, both_eq_ok_iff, isLevel_iff]
  constructor
  · rintro ⟨⟨members, hl⟩, text', slot', ht, hs, he⟩
    obtain ⟨rfl, rfl⟩ := hmk he
    exact ⟨members, _, _, hl, (hl.field?_eq_iff hv htext).mp rfl, readText_eq_ok_iff.mp ht,
      (hl.field?_eq_iff hv hslot).mp rfl, (readSlot_eq_ok_iff hvalue).mp hs⟩
  · rintro ⟨members, x, y, hl, hx, ht, hy, hs⟩
    obtain rfl := (hl.field?_eq_iff hv htext).mpr hx
    obtain rfl := (hl.field?_eq_iff hv hslot).mpr hy
    exact ⟨⟨members, hl⟩, text, slot, readText_eq_ok_iff.mpr ht,
      (readSlot_eq_ok_iff hvalue).mpr hs, rfl⟩

theorem readRecords_iff_writes {path : List Text} {records : Members} :
    readRecords path v = .ok records ↔ WritesRecords records v := by
  rw [readRecords_eq_ok_iff]
  constructor
  · rintro (rfl | ⟨rfl, rfl⟩)
    · exact .object records
    · exact .empty
  · intro h
    cases h with
    | object => exact Or.inl rfl
    | empty => exact Or.inr ⟨rfl, rfl⟩

theorem readZone_iff_writes (hv : Json.Canonical v) {path : List Text} {zone : Zone} :
    readZone path v = .ok zone ↔ WritesZone zone v :=
  readLevel_eq_ok_iff Zone.mk.inj (by decide +kernel) (by decide +kernel)
    (fun _ _ _ => readRecords_iff_writes) hv

theorem readAnswer_iff_writes (hv : Json.Canonical v) {path : List Text} {a : Answer Zone} :
    readAnswer readZone path v = .ok a ↔ WritesAnswer a v :=
  readLevel_eq_ok_iff Answer.mk.inj (by decide +kernel) (by decide +kernel)
    (fun _ hw _ => readZone_iff_writes hw) hv

theorem read_iff_writes (hv : Json.Canonical v) {e : Envelope Zone} :
    read readZone v = .ok e ↔ WritesEnvelope e v :=
  readLevel_eq_ok_iff Envelope.mk.inj (by decide +kernel) (by decide +kernel)
    (fun _ hw _ => readAnswer_iff_writes hw) hv

/-- A body is decoded to an envelope exactly if it writes this envelope. Nothing but letters of
ASCII spells the name of a field. -/
theorem decodeZone_iff_writes :
    (∀ (body : Text) (e : Envelope Zone),
      decodeZone body = .ok e ↔ Spells (WritesEnvelope e) body) ∧
    ∀ name ∈ fieldNames, ∀ key, Text.Lowers key name → ∀ u ∈ key, u < 0x80 := by
  constructor
  · intro body e
    rw [decodeZone, decode_eq_ok_iff]
    constructor
    · rintro ⟨v, hv, hread⟩
      exact ⟨v, hv, (read_iff_writes (Json.canonical_of_read? hv)).mp hread⟩
    · rintro ⟨v, hv, hwrites⟩
      exact ⟨v, hv, (read_iff_writes (Json.canonical_of_read? hv)).mpr hwrites⟩
  · intro name hname key hkey
    obtain ⟨hascii, hk, -⟩ := fieldName_ascii hname
    exact (hkey.eq_toLower hascii hk).1

/-- A name in lower case stands behind another spelling, and other names in front of it. -/
theorem decodeZone_iff_writes_mixed_case :
    let records : Members := [("__proto__", .number "1.0")]
    let zone : Json := .object [("FQDN", .array []), ("fqdn", .string "a.example"),
      ("Records", .object records)]
    let answer : Json := .object [("0", .null), ("isLosslessNumber", .bool true), ("rEsult", zone)]
    let whole : Json := .object [("ANSWER", answer), ("Status", .null), ("__proto__", .null),
      ("status", .string "success")]
    let e : Envelope Zone :=
      ⟨some "success", .value ⟨none, .value ⟨some "a.example", .value records⟩⟩⟩
    (Spells (WritesEnvelope e) whole.write ∧ decodeZone whole.write = .ok e) ∧
      Text.ofString "result" ∈ fieldNames ∧ Text.Lowers "rEsult" "result" ∧
        ∀ u ∈ Text.ofString "rEsult", u < 0x80 := by
  intro records zone answer whole e
  have hrecords : records.Canonical :=
    Members.canonical_singleton _ (.number (Json.isNumeral_of_readNumber (t := "1.0") rfl))
  have hzone : Json.Canonical zone := .object (by decide +kernel)
    (by simpa using ⟨.array (by simp), .string _, Json.canonical_object_iff.mpr hrecords⟩)
  have hanswer : Json.Canonical answer :=
    .object (by decide +kernel) (by simpa using ⟨.null, .bool true, hzone⟩)
  have hwhole : Json.Canonical whole :=
    .object (by decide +kernel) (by simpa using ⟨hanswer, .null, .string _⟩)
  have hbody : Spells (WritesEnvelope e) whole.write :=
    ⟨whole, Json.read?_write hwhole, (read_iff_writes hwhole).mp rfl⟩
  have hname : Text.ofString "result" ∈ fieldNames := by decide +kernel
  have hkey : Text.Lowers "rEsult" "result" := (lowers_iff hname).mpr rfl
  exact ⟨⟨hbody, (decodeZone_iff_writes.1 _ e).mpr hbody⟩, hname, hkey,
    decodeZone_iff_writes.2 _ hname _ hkey⟩

end Readings

end Envelope

end ZoneKeeper
