import Mathlib
import ZoneKeeper.Json.Number
import ZoneKeeper.Settings

namespace ZoneKeeper

theorem Double.isWhole_zero (negative : Bool) : (zero negative).isWhole = true := by
  simp only [zero, isWhole, Nat.zero_mod, decide_true]

namespace Settings
variable {domain owner : Text} {s : Settings}

theorem ofParts_eq_ok {login password target : Except Fault Text} {priority : Except Fault Double}
    (h : ofParts domain owner login password target priority = .ok s) :
    login = .ok s.login ∧ password = .ok s.password ∧ target = .ok s.target ∧
      priority = .ok s.priority := by
  unfold ofParts at h
  split at h
  · obtain rfl := Except.ok.inj h
    exact ⟨rfl, rfl, rfl, rfl⟩
  · exact absurd h (by simp)

/-- Settings are made of a name that is valid and a priority that is whole. -/
theorem ofParts_eq_ok_iff {login password : Text} {priority : Double} :
    ofParts domain owner (.ok login) (.ok password) (readDomain (some (.string domain)))
        (checkPriority priority) = .ok s ↔
      Domain.isValid domain = true ∧ priority.isWhole = true ∧
        s = ⟨domain, domain, owner, login, password, priority⟩ := by
  have hread : readDomain (some (.string domain)) =
      if Domain.isValid domain then .ok domain else .error (.badDomain domain) := rfl
  rw [hread, checkPriority]
  by_cases hv : Domain.isValid domain = true
  · by_cases hw : priority.isWhole = true
    · simp [hv, hw, ofParts, eq_comm]
    · simp [hv, hw, ofParts]
  · simp [hv, ofParts]

theorem ofBlob_eq_ok {blob : Blob} (h : ofBlob blob domain owner = .ok s) :
    ∃ members, blob.json? = .ok (some (.object members)) ∧
      ofMembers members domain owner = .ok s := by
  unfold ofBlob at h
  cases hv : blob.json? with
  | error r => exact absurd h (by simp [hv, bind, Except.bind])
  | ok v =>
    have hjson : (ofJson v domain owner).mapError Json.Rejection.faults = .ok s := by
      rwa [hv] at h
    cases hs : ofJson v domain owner with
    | error faults => exact absurd hjson (by simp [hs, Except.mapError])
    | ok s' =>
      rw [hs] at hjson
      obtain rfl : s' = s := Except.ok.inj hjson
      unfold ofJson at hs
      split at hs
      · exact absurd hs (by simp)
      · next members => exact ⟨members, rfl, hs⟩
      · exact absurd hs (by simp)

theorem exists_of_map {β : Type} {f : Settings → β} {r : Except (Json.Rejection Fault) Settings}
    {b : β} (h : r.toOption.map f = some b) : ∃ s, r = .ok s ∧ f s = b := by
  cases r with
  | error r => exact absurd h (by simp [Except.toOption])
  | ok s => exact ⟨s, rfl, Option.some.inj h⟩

theorem exists_of_target {r : Except (Json.Rejection Fault) Settings} {target : Text}
    (h : r.toOption.map (·.target) = some target) : ∃ s, r = .ok s ∧ s.target = target :=
  exists_of_map h

theorem isWhole_of_readPriority {v : Option Json} {d : Double} (h : readPriority v = .ok d) :
    d.isWhole = true := by
  unfold readPriority at h
  split at h
  · obtain rfl := Except.ok.inj h
    exact Double.isWhole_zero false
  · unfold checkPriority at h
    split_ifs at h with hwhole
    obtain rfl := Except.ok.inj h
    exact hwhole
  · exact absurd h (by simp)

theorem isWhole_priority {blob : Blob} (h : ofBlob blob domain owner = .ok s) :
    s.priority.isWhole = true := by
  obtain ⟨members, -, hs⟩ := ofBlob_eq_ok h
  obtain ⟨-, -, -, hp⟩ := ofParts_eq_ok hs
  exact isWhole_of_readPriority hp

theorem isValid_of_readDomain {v : Option Json} {t : Text} (h : readDomain v = .ok t) :
    Domain.isValid t = true := by
  unfold readDomain at h
  cases hs : readString "domain" v with
  | error f => exact absurd h (by simp [hs, bind, Except.bind])
  | ok s =>
    simp only [hs, bind, Except.bind] at h
    split_ifs at h with hvalid
    obtain rfl := Except.ok.inj h
    exact hvalid

theorem isValid_target {blob : Blob} (h : ofBlob blob domain owner = .ok s) :
    Domain.isValid s.target = true := by
  obtain ⟨members, -, hs⟩ := ofBlob_eq_ok h
  obtain ⟨-, -, ht, -⟩ := ofParts_eq_ok hs
  exact isValid_of_readDomain ht

end Settings

theorem Json.ofDouble_of_isWhole {d : Double} (h : d.isWhole = true) :
    ofDouble d = .number d.toText := by
  cases d with
  | finite => rfl
  | infinite => exact Bool.noConfusion h
  | nan => exact Bool.noConfusion h

end ZoneKeeper
