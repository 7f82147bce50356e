import Mathlib
import ZoneKeeper.Envelope
import ZoneKeeper.Proofs.Json.Canonical

namespace ZoneKeeper.Envelope

/-- A name in lower case takes the place of what is there, any other only a place that is free. -/
def foldMember (folded : Members) (m : Text × Json) : Members :=
  if (folded.get? (Text.toLower m.1)).isNone || Text.toLower m.1 = m.1 then
    folded.insert (Text.toLower m.1) m.2
  else folded

def foldKeys (members : Members) : Members := members.foldl foldMember []

def folded : Json → Members
  | .object members => foldKeys members
  | _ => []

theorem get?_foldMember (folded : Members) (m : Text × Json) (name : Text) :
    (foldMember folded m).get? name =
      if Text.toLower m.1 = name ∧ (folded.get? name = none ∨ m.1 = name) then some m.2
      else folded.get? name := by
  unfold foldMember
  by_cases hname : Text.toLower m.1 = name
  · subst hname
    by_cases hnone : folded.get? (Text.toLower m.1) = none
    · simp [hnone, Members.get?_insert]
    · by_cases hlow : Text.toLower m.1 = m.1
      · simp [hlow, Members.get?_insert]
      · simp [hnone, hlow, Ne.symm hlow]
  · split_ifs <;> simp_all [Members.get?_insert, Ne.symm]

/-- What folding keeps under a name in lower case: the member with exactly this name, else what was
there before, else the first member whose name differs from it in case only. -/
theorem get?_foldl_foldMember {members : Members} (h : members.Ordered) {name : Text}
    (hname : Text.toLower name = name) (before : Members) :
    (members.foldl foldMember before).get? name =
      ((members.find? fun m => m.1 = name).map (·.2)).or
        ((before.get? name).or
          ((members.find? fun m => Text.toLower m.1 = name).map (·.2))) := by
  induction members generalizing before with
  | nil => simp
  | cons m rest ih =>
    obtain ⟨hhead, hrest⟩ := List.pairwise_cons.mp h
    rw [List.foldl_cons, ih hrest, get?_foldMember]
    -- A member with exactly this name is the last word, since keys do not repeat.
    by_cases hexact : m.1 = name
    · have hnone : rest.find? (fun m => m.1 = name) = none := by
        rw [List.find?_eq_none]
        intro n hn
        simpa [← hexact] using (hhead n hn).1.symm
      have hlow : Text.toLower m.1 = name := by rw [hexact, hname]
      simp [hexact, hname, hnone]
    · by_cases hlow : Text.toLower m.1 = name
      · cases hbefore : before.get? name with
        | none => simp [hexact, hlow]
        | some v => simp [hexact]
      · simp [hexact, hlow]

theorem get?_foldKeys {members : Members} (h : members.Ordered) {name : Text}
    (hname : Text.toLower name = name) :
    (foldKeys members).get? name = field? name (.object members) := by
  have hnil : Members.get? [] name = none := rfl
  rw [foldKeys, get?_foldl_foldMember h hname, hnil, Option.none_or, field?]
  cases members.find? fun m => decide (m.1 = name) with
  | none => rfl
  | some m => rfl

/-- A field is found exactly if folding keeps a member for it. -/
theorem field?_eq_get?_folded {v : Json} (h : Json.Canonical v) {name : Text}
    (hname : Text.toLower name = name) : field? name v = (folded v).get? name := by
  cases h with
  | object ho h => exact (get?_foldKeys ho hname).symm
  | _ => rfl

theorem mem_of_field? {members : Members} {name : Text} {w : Json}
    (h : field? name (.object members) = some w) : ∃ m ∈ members, m.2 = w := by
  simp only [field?] at h
  split at h
  · next m hm => exact ⟨m, List.mem_of_find?_eq_some hm, Option.some.inj h⟩
  · obtain ⟨m, hm, rfl⟩ := Option.map_eq_some_iff.mp h
    exact ⟨m, List.mem_of_find?_eq_some hm, rfl⟩

theorem canonical_of_field? {v w : Json} (h : Json.Canonical v) {name : Text}
    (hw : field? name v = some w) : Json.Canonical w := by
  cases h with
  | object ho h =>
    obtain ⟨m, hm, rfl⟩ := mem_of_field? hw
    exact h m hm
  | _ => simp [field?] at hw

end ZoneKeeper.Envelope
