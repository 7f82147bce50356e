import Mathlib
import ZoneKeeper.Proofs.Double.Value
import ZoneKeeper.Proofs.Settings
import ZoneKeeper.Proofs.Update.Credentials

namespace ZoneKeeper.CommandLine

theorem given?_eq_some_iff {o : Option Text} {t : Text} :
    given? o = some t ↔ o = some t ∧ t ≠ [] := by
  simp [given?, Option.filter_eq_some_iff]

/-- The environment makes these settings. -/
structure Configures (i : Input) (s : Settings) : Prop where
  login : given? (i.valueOf? "BEGET_LOGIN") = some s.login
  password : given? (i.valueOf? "BEGET_PASSWORD") = some s.password
  domain : given? (i.valueOf? "BEGET_DOMAIN") = some s.domain
  valid : Domain.isValid s.domain = true
  target : s.target = s.domain
  owner : s.owner = Text.ofString "@"
  priority : s.priority = Double.ofText ((i.valueOf? "BEGET_PRIORITY").getD "10")
  whole : s.priority.isWhole = true

/-- The command asks to point a domain at an address, and brings all that it takes. -/
structure Asks (i : Input) (domain : Text) (a : Ipv4) : Prop where
  argument : ∃ t, i.arguments.head? = some t ∧ t ≠ [] ∧ t.trim = a.toText
  login : ∃ t, i.valueOf? "BEGET_LOGIN" = some t ∧ t ≠ []
  password : ∃ t, i.valueOf? "BEGET_PASSWORD" = some t ∧ t ≠ []
  name : i.valueOf? "BEGET_DOMAIN" = some domain ∧ domain ≠ []
  valid : Domain.isValid domain = true
  priority : (Double.ofText ((i.valueOf? "BEGET_PRIORITY").getD "10")).IsInteger

section Plans
variable {i : Input} {s : Settings} {p : Provider} {address : Text}

theorem planOf_eq_update_iff {address' : Text} {r : Except (List Settings.Fault) Settings} :
    planOf address' r = .update p address ↔ address' = address ∧ r = .ok p.settings := by
  cases p with
  | beget s =>
    cases r with
    | ok s' => simp [planOf, Provider.settings, and_comm]
    | error faults => simp [planOf]

theorem plan_of_given {login password domain : Text}
    (ha : given? i.arguments.head? = some address)
    (hl : given? (i.valueOf? "BEGET_LOGIN") = some login)
    (hp : given? (i.valueOf? "BEGET_PASSWORD") = some password)
    (hd : given? (i.valueOf? "BEGET_DOMAIN") = some domain) :
    plan i = planOf address (Settings.ofParts domain "@" (.ok login) (.ok password)
      (Settings.readDomain (some (.string domain)))
      (Settings.checkPriority (Double.ofText ((i.valueOf? "BEGET_PRIORITY").getD "10")))) := by
  simp only [plan, ha, hl, hp, hd]
  rfl

theorem plan_eq_update_iff :
    plan i = .update p address ↔
      given? i.arguments.head? = some address ∧ Configures i p.settings := by
  constructor
  · intro h
    cases ha : given? i.arguments.head? with
    | none => simp [plan, ha] at h
    | some address' =>
      cases hl : given? (i.valueOf? "BEGET_LOGIN") with
      | none => simp [plan, ha, hl] at h
      | some login =>
        cases hp : given? (i.valueOf? "BEGET_PASSWORD") with
        | none => simp [plan, ha, hl, hp] at h
        | some password =>
          cases hd : given? (i.valueOf? "BEGET_DOMAIN") with
          | none => simp [plan, ha, hl, hp, hd] at h
          | some domain =>
            rw [plan_of_given ha hl hp hd, planOf_eq_update_iff, Settings.ofParts_eq_ok_iff] at h
            obtain ⟨rfl, hv, hw, hs⟩ := h
            rw [hs]
            exact ⟨rfl, hl, hp, hd, hv, rfl, rfl, rfl, hw⟩
  · intro ⟨ha, h⟩
    have hv := h.valid
    have hw := h.priority ▸ h.whole
    rw [plan_of_given ha h.login h.password h.domain, planOf_eq_update_iff,
      Settings.ofParts_eq_ok_iff]
    refine ⟨rfl, hv, hw, ?_⟩
    calc p.settings
        = ⟨p.settings.domain, p.settings.target, p.settings.owner, p.settings.login,
            p.settings.password, p.settings.priority⟩ := rfl
      _ = _ := by rw [h.target, h.owner, h.priority]

theorem complaint_of_stop {complaint : Text} (h : plan i = .stop complaint) :
    complaint = usage ∨ complaint = missing ∨ ∃ message, complaint = errorLine message := by
  unfold plan at h
  split at h
  · exact Or.inl (Plan.stop.inj h).symm
  · split at h
    · dsimp only at h
      split at h
      · exact Plan.noConfusion h
      · exact Or.inr (Or.inr ⟨_, (Plan.stop.inj h).symm⟩)
    · exact Or.inr (Or.inl (Plan.stop.inj h).symm)

/-- An update is planned exactly if one is asked for, the form of the address aside. -/
theorem asks_iff {domain : Text} {a : Ipv4} :
    Asks i domain a ↔ ∃ p address, plan i = .update p address ∧ p.settings.target = domain ∧
      address.trim = a.toText := by
  constructor
  · intro h
    obtain ⟨address, ha, hne, htrim⟩ := h.argument
    obtain ⟨login, hl⟩ := h.login
    obtain ⟨password, hp⟩ := h.password
    have hw := (Double.isWhole_iff _).mpr h.priority
    let s : Settings := ⟨domain, domain, "@", login, password,
      Double.ofText ((i.valueOf? "BEGET_PRIORITY").getD "10")⟩
    have hconfigures : Configures i s :=
      ⟨given?_eq_some_iff.mpr hl, given?_eq_some_iff.mpr hp, given?_eq_some_iff.mpr h.name,
        h.valid, rfl, rfl, rfl, hw⟩
    have hplan : plan i = .update (.beget s) address :=
      plan_eq_update_iff.mpr ⟨given?_eq_some_iff.mpr ⟨ha, hne⟩, hconfigures⟩
    exact ⟨.beget s, address, hplan, rfl, htrim⟩
  · intro ⟨p, address, hplan, htarget, htrim⟩
    obtain ⟨ha, h⟩ := plan_eq_update_iff.mp hplan
    obtain ⟨harg, hne⟩ := given?_eq_some_iff.mp ha
    have hdomain : p.settings.domain = domain := h.target.symm.trans htarget
    refine ⟨⟨address, harg, hne, htrim⟩, ⟨_, given?_eq_some_iff.mp h.login⟩,
      ⟨_, given?_eq_some_iff.mp h.password⟩, ?_, ?_, ?_⟩
    · exact given?_eq_some_iff.mp (hdomain ▸ h.domain)
    · exact hdomain ▸ h.valid
    · rw [← h.priority]
      exact (Double.isWhole_iff _).mp h.whole

end Plans

end ZoneKeeper.CommandLine
