import Mathlib
import ZoneKeeper.Proofs.Json.Members
import ZoneKeeper.Proofs.Json.Numeral

namespace ZoneKeeper

inductive Json.Canonical : Json → Prop
  | null : Canonical .null
  | bool (b : Bool) : Canonical (.bool b)
  | number {source : Text} (h : Json.IsNumeral source) : Canonical (.number source)
  | string (s : Text) : Canonical (.string s)
  | array {items : List Json} (h : ∀ v ∈ items, Canonical v) : Canonical (.array items)
  | object {members : Members} (ho : members.Ordered) (h : ∀ m ∈ members, Canonical m.2) :
      Canonical (.object members)

/-- What the members of such an object have in common. -/
structure Members.Canonical (members : Members) : Prop where
  ordered : members.Ordered
  values : ∀ m ∈ members, Json.Canonical m.2

theorem Json.canonical_object_iff {members : Members} :
    Json.Canonical (.object members) ↔ members.Canonical := by
  constructor
  · intro h
    cases h with
    | object ho h => exact ⟨ho, h⟩
  · exact fun h => .object h.ordered h.values

theorem Members.Canonical.insert {members : Members} (h : members.Canonical) (key : Text)
    {v : Json} (hv : Json.Canonical v) : (members.insert key v).Canonical := by
  refine ⟨h.ordered.insert key v, ?_⟩
  intro m hm
  rcases Members.mem_insert hm with rfl | hm
  · exact hv
  · exact h.values m hm

theorem Members.canonical_nil : Members.Canonical [] :=
  ⟨List.Pairwise.nil, fun _ hm => absurd hm List.not_mem_nil⟩

theorem Members.Canonical.cons {members : Members} {key : Text} {v : Json}
    (h : members.Canonical) (hkey : ∀ m ∈ members, Members.Before key m.1)
    (hv : Json.Canonical v) : Members.Canonical ((key, v) :: members) :=
  ⟨List.pairwise_cons.mpr ⟨hkey, h.ordered⟩, List.forall_mem_cons.mpr ⟨hv, h.values⟩⟩

theorem Members.canonical_singleton (key : Text) {v : Json} (hv : Json.Canonical v) :
    Members.Canonical [(key, v)] :=
  Members.canonical_nil.cons (fun _ hm => absurd hm List.not_mem_nil) hv

theorem Members.canonical_pair (key key' : Text) {v v' : Json} (hkey : Members.Before key key')
    (hv : Json.Canonical v) (hv' : Json.Canonical v') :
    Members.Canonical [(key, v), (key', v')] := by
  refine (canonical_singleton key' hv').cons ?_ hv
  intro m hm
  rw [List.mem_singleton.mp hm]
  exact hkey

theorem Members.Canonical.get? {members : Members} {key : Text} {v : Json}
    (h : members.Canonical) (hv : members.get? key = some v) : Json.Canonical v :=
  h.values (key, v) (Members.mem_of_get? hv)

namespace Json

section Reading
variable {fits : Json → Json → Bool}

/-- What reading gives with a certain fuel. -/
structure Yields (fits : Json → Json → Bool) (n : ℕ) : Prop where
  value : ∀ {t v r}, readValue fits n t = some (v, r) → Canonical v
  items : ∀ {t vs r}, readItems fits n t = some (vs, r) → ∀ v ∈ vs, Canonical v
  members : ∀ {t ms ms' r}, readMembers fits n ms t = some (ms', r) → ms.Canonical → ms'.Canonical

theorem readValue_canonical {n : ℕ} (ih : Yields fits n) {t r : Text} {v : Json}
    (h : readValue fits (n + 1) t = some (v, r)) : Canonical v := by
  unfold readValue at h
  simp only [Option.bind_eq_bind, Option.pure_def] at h
  split at h
  · obtain ⟨⟨s, r'⟩, -, he⟩ := Option.bind_eq_some_iff.mp h
    obtain ⟨rfl, -⟩ := Prod.mk.inj (Option.some.inj he)
    exact .string s
  · split at h
    · obtain ⟨rfl, -⟩ := Prod.mk.inj (Option.some.inj h)
      exact .array (by simp)
    · obtain ⟨⟨items, r'⟩, hi, he⟩ := Option.bind_eq_some_iff.mp h
      obtain ⟨rfl, -⟩ := Prod.mk.inj (Option.some.inj he)
      exact .array (ih.items hi)
  · split at h
    · obtain ⟨rfl, -⟩ := Prod.mk.inj (Option.some.inj h)
      exact canonical_object_iff.mpr Members.canonical_nil
    · obtain ⟨⟨members, r'⟩, hm, he⟩ := Option.bind_eq_some_iff.mp h
      obtain ⟨rfl, -⟩ := Prod.mk.inj (Option.some.inj he)
      exact canonical_object_iff.mpr (ih.members hm Members.canonical_nil)
  · obtain ⟨rfl, -⟩ := Prod.mk.inj (Option.some.inj h)
    exact .null
  · obtain ⟨rfl, -⟩ := Prod.mk.inj (Option.some.inj h)
    exact .bool true
  · obtain ⟨rfl, -⟩ := Prod.mk.inj (Option.some.inj h)
    exact .bool false
  · obtain ⟨⟨source, r'⟩, hs, he⟩ := Option.bind_eq_some_iff.mp h
    obtain ⟨rfl, -⟩ := Prod.mk.inj (Option.some.inj he)
    exact .number (isNumeral_of_readNumber hs)

theorem readItems_canonical {n : ℕ} (ih : Yields fits n) {t r : Text} {vs : List Json}
    (h : readItems fits (n + 1) t = some (vs, r)) : ∀ v ∈ vs, Canonical v := by
  unfold readItems at h
  simp only [Option.bind_eq_bind, Option.pure_def] at h
  obtain ⟨⟨w, r'⟩, hw, he⟩ := Option.bind_eq_some_iff.mp h
  simp only at he
  split at he
  · obtain ⟨⟨ws, r''⟩, hws, he⟩ := Option.bind_eq_some_iff.mp he
    obtain ⟨rfl, -⟩ := Prod.mk.inj (Option.some.inj he)
    exact List.forall_mem_cons.mpr ⟨ih.value hw, ih.items hws⟩
  · obtain ⟨rfl, -⟩ := Prod.mk.inj (Option.some.inj he)
    exact List.forall_mem_singleton.mpr (ih.value hw)
  · exact absurd he (by simp)

theorem readMembers_canonical {n : ℕ} (ih : Yields fits n) {t r : Text} {ms ms' : Members}
    (h : readMembers fits (n + 1) ms t = some (ms', r)) (hms : ms.Canonical) : ms'.Canonical := by
  unfold readMembers at h
  simp only [Option.bind_eq_bind, Option.pure_def] at h
  split at h
  · obtain ⟨⟨key, r'⟩, -, he⟩ := Option.bind_eq_some_iff.mp h
    simp only at he
    split at he
    · obtain ⟨⟨v, r''⟩, hv, he⟩ := Option.bind_eq_some_iff.mp he
      have hins := hms.insert key (ih.value hv)
      simp only at he
      split_ifs at he
      split at he
      · exact ih.members he hins
      · obtain ⟨rfl, -⟩ := Prod.mk.inj (Option.some.inj he)
        exact hins
      · exact absurd he (by simp)
    · exact absurd he (by simp)
  · exact absurd h (by simp)

theorem yields (n : ℕ) : Yields fits n := by
  -- The three readers call each other with less fuel, so all three are followed at once.
  induction n with
  | zero =>
    refine ⟨?_, ?_, ?_⟩
    · intro t v r h
      exact absurd h (by simp [readValue])
    · intro t vs r h
      exact absurd h (by simp [readItems])
    · intro t ms ms' r h
      exact absurd h (by simp [readMembers])
  | succ n ih =>
    exact ⟨readValue_canonical ih, readItems_canonical ih, readMembers_canonical ih⟩

theorem canonical_of_read? {t : Text} {v : Json} (h : read? fits t = some v) : Canonical v := by
  simp only [read?, Option.bind_eq_bind, Option.pure_def] at h
  obtain ⟨⟨w, r⟩, hw, he⟩ := Option.bind_eq_some_iff.mp h
  split_ifs at he
  obtain rfl := Option.some.inj he
  exact (yields _).value hw

end Reading

end Json

end ZoneKeeper
