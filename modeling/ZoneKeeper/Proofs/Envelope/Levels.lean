import Mathlib
import ZoneKeeper.Proofs.Envelope.Faults

namespace ZoneKeeper.Envelope

def levelPaths : Endpoint → List (List Text)
  | .getData => [[], ["answer"], ["answer", "result"]]
  | .changeRecords => [[], ["answer"]]

/-- Each level that is there, and is not null below the whole, has the given shape. -/
def LevelsHold (shape : Json → Prop) (e : Endpoint) (v : Json) : Prop :=
  ∀ path ∈ levelPaths e, ∀ x, under? path v = some x → path ≠ [] ∧ x = .null ∨ shape x

def NumberAt (e : Endpoint) (v : Json) : Prop :=
  ∃ path ∈ levelPaths e, ∃ source, under? path v = some (.number source)

section Levels
variable {body : Text} {v : Json} {e : Endpoint}

/-- A body that is JSON is decoded exactly if it has the shape that its endpoint asks for. -/
theorem report?_eq_none_iff (h : Json.read? Json.agree body = some v) :
    report? body e = none ↔ ShapeOf e v := by
  have hspells : ∀ shape, Spells shape body ↔ shape v := by
    intro shape
    simp only [Spells, h, Option.some.injEq]
    constructor
    · rintro ⟨w, rfl, hs⟩
      exact hs
    · intro hs
      exact ⟨v, rfl, hs⟩
  have hnone : ∀ {α : Type} (r : Except (Json.Rejection Fault) (Envelope α)),
      reportOf e body r = none ↔ ∃ x, r = .ok x := by
    intro α r
    cases r <;> simp [reportOf]
  cases e with
  | getData => rw [report?, hnone, decodeZone_ok_iff, hspells, ShapeOf]
  | changeRecords => rw [report?, hnone, decodeChange_ok_iff, hspells, ShapeOf]

theorem kind_of_report? (h : Json.read? Json.agree body = some v) {r : Report}
    (hr : report? body e = some r) : r.kind = .decoding e (some body) (some .badShape) := by
  have hkind : ∀ {α : Type} (result : List Text → Json → Reading α),
      reportOf e body (decode result body) = some r →
        r.kind = .decoding e (some body) (some .badShape) := by
    intro α result hr
    simp only [decode, h] at hr
    cases hread : read result v with
    | ok x => simp [hread, Except.mapError, reportOf] at hr
    | error found =>
      rw [hread] at hr
      obtain rfl := Option.some.inj hr
      rfl
  cases e with
  | getData => exact hkind readZone hr
  | changeRecords => exact hkind anyResult hr

theorem ShapeOf.levelsHold (h : ShapeOf e v) : LevelsHold IsLevel e v := by
  have hanswer : ∀ {shape : Json → Prop}, IsEnvelope shape v → ∀ x, under? ["answer"] v = some x →
      x = .null ∨ IsAnswer shape x := by
    intro shape hv x hx
    rw [under?_singleton] at hx
    exact hv.answer x hx
  intro path hpath x hx
  cases e with
  | getData =>
    simp only [levelPaths, List.mem_cons, List.not_mem_nil, or_false] at hpath
    rcases hpath with rfl | rfl | rfl
    · obtain rfl := Option.some.inj hx
      exact Or.inr h.level
    · exact (hanswer h x hx).imp (fun hnull => ⟨by simp, hnull⟩) (fun ha => ha.level)
    · obtain ⟨a, ha, hx⟩ := under?_cons_eq_some_iff.mp hx
      have hshape := (hanswer h a ha).resolve_left (ne_null_of_under? hx)
      rw [under?_singleton] at hx
      exact (hshape.result x hx).imp (fun hnull => ⟨by simp, hnull⟩) (fun hz => hz.level)
  | changeRecords =>
    simp only [levelPaths, List.mem_cons, List.not_mem_nil, or_false] at hpath
    rcases hpath with rfl | rfl
    · obtain rfl := Option.some.inj hx
      exact Or.inr h.level
    · exact (hanswer h x hx).imp (fun hnull => ⟨by simp, hnull⟩) (fun ha => ha.level)

theorem shapeOf_number (e : Endpoint) (source : Text) : ShapeOf e (.number source) := by
  have hshape : ∀ shape, IsEnvelope shape (.number source) := by
    intro shape
    refine ⟨Or.inr rfl, ?_, ?_⟩ <;> intro x hx <;> exact absurd hx (by simp [folded, Members.get?])
  cases e with
  | getData => exact hshape IsZone
  | changeRecords => exact hshape IsAnything

/-- Levels that are objects or numbers are objects exactly if no number is among them. -/
theorem LevelsHold.objects_iff (h : LevelsHold IsLevel e v) :
    LevelsHold (·.kind = .object) e v ↔ ¬ NumberAt e v := by
  constructor
  · rintro hobjects ⟨path, hpath, source, hx⟩
    rcases hobjects path hpath _ hx with ⟨-, hnull⟩ | hkind
    · exact absurd hnull (by simp)
    · exact absurd hkind (by simp [Json.kind])
  · intro hnumber path hpath x hx
    apply (h path hpath x hx).imp_right
    intro hlevel
    apply hlevel.resolve_right
    intro hkind
    cases x with
    | number source => exact hnumber ⟨path, hpath, source, hx⟩
    | _ => simp [Json.kind] at hkind

/-- The levels of a body that is decoded are objects, but for those that are numbers. Every other
value in the place of a level is refused, and a body that is nothing but a number is decoded. -/
theorem decoded_levels (e : Endpoint) (h : Json.read? Json.agree body = some v) :
    (report? body e = none →
      LevelsHold IsLevel e v ∧ (LevelsHold (·.kind = .object) e v ↔ ¬ NumberAt e v)) ∧
    (¬ LevelsHold IsLevel e v → ∃ r, report? body e = some r ∧
      r.kind = .decoding e (some body) (some .badShape)) ∧
    ∀ source, v = .number source → report? body e = none := by
  refine ⟨?_, ?_, ?_⟩
  · intro hnone
    have hlevels := ((report?_eq_none_iff h).mp hnone).levelsHold
    exact ⟨hlevels, hlevels.objects_iff⟩
  -- A body that is JSON and not decoded has the wrong shape.
  · intro hlevels
    cases hr : report? body e with
    | none => exact absurd ((report?_eq_none_iff h).mp hr).levelsHold hlevels
    | some r => exact ⟨r, rfl, kind_of_report? h hr⟩
  · rintro source rfl
    exact (report?_eq_none_iff h).mpr (shapeOf_number e source)

end Levels

set_option maxRecDepth 4000 in
/-- A number in place of the answer is decoded, a list in its place is refused. -/
theorem decoded_levels_answer :
    let v : Json := .object [("status", .string "success"), ("answer", .number "1.0")]
    let w : Json := .object [("answer", .array [])]
    (Json.read? Json.agree v.write = some v ∧ report? v.write .changeRecords = none ∧
      LevelsHold IsLevel .changeRecords v ∧ ¬ LevelsHold (·.kind = .object) .changeRecords v) ∧
    Json.read? Json.agree w.write = some w ∧ ¬ LevelsHold IsLevel .getData w ∧
      ∃ r, report? w.write .getData = some r ∧
        r.kind = .decoding .getData (some w.write) (some .badShape) := by
  intro v w
  have hone : Json.Canonical (.number "1.0") :=
    .number (Json.isNumeral_of_readNumber (t := "1.0") rfl)
  have hv : Json.Canonical v :=
    .object (by decide +kernel) (by simpa using ⟨.string "success", hone⟩)
  have hw : Json.Canonical w :=
    Json.canonical_object_iff.mpr (Members.canonical_singleton "answer" (.array (by simp)))
  have hreadv : Json.read? Json.agree v.write = some v := Json.read?_write hv
  have hreadw : Json.read? Json.agree w.write = some w := Json.read?_write hw
  have hnone : report? v.write .changeRecords = none := by
    simp only [report?, decodeChange, decode, hreadv]
    rfl
  have hnumber : NumberAt .changeRecords v := ⟨["answer"], by simp [levelPaths], "1.0", rfl⟩
  have hlist : ¬ LevelsHold IsLevel .getData w := by
    intro hlevels
    rcases hlevels ["answer"] (by simp [levelPaths]) (.array []) rfl with ⟨-, hnull⟩ | hlevel
    · exact absurd hnull (by simp)
    · exact absurd hlevel (by simp [IsLevel, Json.kind])
  obtain ⟨hlevels, hobjects⟩ := (decoded_levels .changeRecords hreadv).1 hnone
  exact ⟨⟨hreadv, hnone, hlevels, fun h => hobjects.mp h hnumber⟩, hreadw, hlist,
    (decoded_levels .getData hreadw).2.1 hlist⟩

/-- A body that is a number passes for an envelope without fields. -/
theorem number_passes_for_envelope :
    Json.read? Json.agree "42" = some (.number "42") ∧
      decodeZone "42" = .ok ⟨none, .absent⟩ ∧ decodeChange "42" = .ok ⟨none, .absent⟩ ∧
      ∀ e, ¬ LevelsHold (·.kind = .object) e (.number "42") := by
  refine ⟨rfl, rfl, rfl, ?_⟩
  intro e hobjects
  have hroot : ([] : List Text) ∈ levelPaths e := by cases e <;> simp [levelPaths]
  rcases hobjects [] hroot (.number "42") rfl with ⟨hpath, -⟩ | hkind
  · exact hpath rfl
  · exact absurd hkind (by simp [Json.kind])

end ZoneKeeper.Envelope
