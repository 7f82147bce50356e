import Mathlib
import ZoneKeeper.Json.Reader
import ZoneKeeper.Proofs.Text.Digits

namespace ZoneKeeper.Json
open Text (IsDecimal)

structure IsDigits (t : Text) : Prop where
  ne_nil : t ≠ []
  digits : ∀ u ∈ t, u.isDigit = true

inductive IsMinus : Text → Prop
  | absent : IsMinus []
  | present : IsMinus [0x2D]

inductive IsFraction : Text → Prop
  | absent : IsFraction []
  | digits {ds : Text} (h : IsDigits ds) : IsFraction (0x2E :: ds)

inductive IsExponent : Text → Prop
  | absent : IsExponent []
  | unsigned {e : CodeUnit} {ds : Text} (he : e = 0x65 ∨ e = 0x45) (h : IsDigits ds) :
      IsExponent (e :: ds)
  | signed {e s : CodeUnit} {ds : Text} (he : e = 0x65 ∨ e = 0x45) (hs : s = 0x2B ∨ s = 0x2D)
      (h : IsDigits ds) : IsExponent (e :: s :: ds)

inductive IsNumeral : Text → Prop
  | intro {minus whole fraction exponent : Text} (hm : IsMinus minus) (hw : IsDecimal whole)
      (hf : IsFraction fraction) (he : IsExponent exponent) :
      IsNumeral (minus ++ whole ++ fraction ++ exponent)

def continues (u : CodeUnit) : Bool := u.isDigit || u = 0x2E || u = 0x65 || u = 0x45

/-- The text does not go on with a number in front of it. -/
def Stops (t : Text) : Prop := ∀ u ∈ t.head?, continues u = false

theorem stops_nil : Stops [] := by simp [Stops]

theorem stops_cons {u : CodeUnit} (h : continues u = false) (t : Text) : Stops (u :: t) := by
  simpa [Stops] using h

def NoDigit (t : Text) : Prop := ∀ u ∈ t.head?, u.isDigit = false

theorem Stops.noDigit {t : Text} (h : Stops t) : NoDigit t := by
  intro u hu
  have hc := h u hu
  simp only [continues, Bool.or_eq_false_iff] at hc
  exact hc.1.1.1

theorem noDigit_cons {u : CodeUnit} (h : u.isDigit = false) (t : Text) : NoDigit (u :: t) := by
  simpa [NoDigit] using h

theorem spanDigits_append {ds r : Text} (h : ∀ u ∈ ds, u.isDigit = true) (hr : NoDigit r) :
    spanDigits (ds ++ r) = (ds, r) := by
  have htake : r.takeWhile CodeUnit.isDigit = [] := by
    cases r with
    | nil => rfl
    | cons u r => exact List.takeWhile_cons_of_neg (by simpa using hr u rfl)
  have hdrop : r.dropWhile CodeUnit.isDigit = r := by
    cases r with
    | nil => rfl
    | cons u r => exact List.dropWhile_cons_of_neg (by simpa using hr u rfl)
  rw [spanDigits, List.takeWhile_append_of_pos h, List.dropWhile_append_of_pos h, htake, hdrop,
    List.append_nil]

theorem readDigits_append {ds r : Text} (h : IsDigits ds) (hr : NoDigit r) :
    readDigits (ds ++ r) = some (ds, r) := by
  have hhead : ((ds ++ r).head?.any CodeUnit.isDigit) = true := by
    cases ds with
    | nil => exact absurd rfl h.ne_nil
    | cons u ds => simpa using h.digits u (by simp)
  rw [readDigits, if_pos hhead, spanDigits_append h.digits hr]

theorem isDigits_of_readDigits {t ds r : Text} (h : readDigits t = some (ds, r)) :
    IsDigits ds ∧ ds.head? = t.head? := by
  unfold readDigits at h
  split_ifs at h with hhead
  obtain ⟨rfl, rfl⟩ := Prod.mk.inj (Option.some.inj h)
  cases t with
  | nil => simp at hhead
  | cons u t =>
    have hu : u.isDigit = true := by simpa using hhead
    rw [List.takeWhile_cons_of_pos hu]
    refine ⟨⟨by simp, ?_⟩, rfl⟩
    intro v hv
    rcases List.mem_cons.mp hv with rfl | hv
    · exact hu
    · exact List.mem_takeWhile_imp hv

theorem readMinus_append {minus whole r : Text} (hm : IsMinus minus) (hw : IsDecimal whole) :
    readMinus (minus ++ whole ++ r) = (minus, whole ++ r) := by
  cases hm with
  | present => rfl
  | absent =>
    obtain ⟨u, t, rfl⟩ := List.exists_cons_of_ne_nil hw.ne_nil
    have hu := (Text.isDigit_iff u).mp (hw.digits u (by simp))
    simp only [List.nil_append, List.cons_append]
    unfold readMinus
    split
    · next heq =>
      have he : u = 0x2D := (List.cons.inj heq).1
      subst he
      simp at hu
    · rfl

theorem readWhole_append {whole r : Text} (hw : IsDecimal whole) (hr : NoDigit r) :
    readWhole (whole ++ r) = some (whole, r) := by
  have hd := readDigits_append ⟨hw.ne_nil, hw.digits⟩ hr
  unfold readWhole
  split
  · next rest heq =>
    rcases hw.leads with hone | hhead
    · obtain ⟨u, rfl⟩ := List.length_eq_one_iff.mp hone
      obtain ⟨rfl, rfl⟩ := List.cons.inj heq
      rfl
    · rw [← List.head?_append_of_ne_nil whole hw.ne_nil, heq] at hhead
      exact absurd rfl hhead
  · exact hd

theorem readFraction_append {fraction r : Text} (hf : IsFraction fraction) (hr : NoDigit r)
    (hdot : r.head? ≠ some 0x2E) : readFraction (fraction ++ r) = some (fraction, r) := by
  cases hf with
  | absent =>
    rw [List.nil_append]
    unfold readFraction
    split
    · exact absurd rfl hdot
    · rfl
  | digits h =>
    rw [List.cons_append, readFraction, readDigits_append h hr]
    rfl

theorem readExponent_append {exponent r : Text} (he : IsExponent exponent) (hr : Stops r) :
    readExponent (exponent ++ r) = some (exponent, r) := by
  cases he with
  | absent =>
    cases r with
    | nil => rfl
    | cons u r =>
      have hu := hr u rfl
      simp only [continues, Bool.or_eq_false_iff, decide_eq_false_iff_not] at hu
      rw [List.nil_append, readExponent.eq_def]
      simp only
      rw [if_neg (by simp [hu])]
  | @unsigned e ds he h =>
    obtain ⟨u, t, rfl⟩ := List.exists_cons_of_ne_nil h.ne_nil
    have hu := (Text.isDigit_iff u).mp (h.digits u (by simp))
    have hsign : ¬ (u = 0x2B || u = 0x2D) = true := by
      simp only [Bool.or_eq_true, decide_eq_true_eq, not_or]
      exact ⟨by rintro rfl; simp at hu, by rintro rfl; simp at hu⟩
    have hd := readDigits_append h hr.noDigit
    simp only [List.cons_append] at hd ⊢
    rw [readExponent, if_pos (by simpa using he)]
    simp only
    rw [if_neg hsign, hd]
    rfl
  | @signed e s ds he hs h =>
    simp only [List.cons_append]
    rw [readExponent, if_pos (by simpa using he)]
    simp only
    rw [if_pos (by simpa using hs), readDigits_append h hr.noDigit]
    rfl

theorem noDigit_exponent {exponent r : Text} (he : IsExponent exponent) (hr : Stops r) :
    NoDigit (exponent ++ r) ∧ (exponent ++ r).head? ≠ some 0x2E := by
  cases he with
  | absent =>
    refine ⟨hr.noDigit, ?_⟩
    intro hdot
    exact absurd (hr 0x2E hdot) (by decide)
  | unsigned he h =>
    rcases he with rfl | rfl
    · exact ⟨noDigit_cons (by decide) _, by simp⟩
    · exact ⟨noDigit_cons (by decide) _, by simp⟩
  | signed he hs h =>
    rcases he with rfl | rfl
    · exact ⟨noDigit_cons (by decide) _, by simp⟩
    · exact ⟨noDigit_cons (by decide) _, by simp⟩

theorem readNumber_append {source r : Text} (h : IsNumeral source) (hr : Stops r) :
    readNumber (source ++ r) = some (source, r) := by
  obtain ⟨hm, hw, hf, he⟩ := h
  rename_i minus whole fraction exponent
  obtain ⟨hdigit, hdot⟩ := noDigit_exponent he hr
  -- Each part stops where the next one starts, or at the end of the number if that is absent.
  have hwhole : NoDigit (fraction ++ (exponent ++ r)) := by
    cases hf with
    | absent => exact hdigit
    | digits => exact noDigit_cons (by decide) _
  have hminus := readMinus_append (r := fraction ++ (exponent ++ r)) hm hw
  simp only [List.append_assoc] at hminus ⊢
  rw [readNumber, hminus]
  simp only [readWhole_append hw hwhole, readFraction_append hf hdigit hdot,
    readExponent_append he hr, Option.bind_eq_bind, Option.bind_some, Option.pure_def,
    List.append_assoc]

theorem isMinus_readMinus (t : Text) : IsMinus (readMinus t).1 := by
  unfold readMinus
  split
  · exact .present
  · exact .absent

theorem isDecimal_of_readWhole {t whole r : Text} (h : readWhole t = some (whole, r)) :
    IsDecimal whole := by
  unfold readWhole at h
  split at h
  · obtain ⟨rfl, rfl⟩ := Prod.mk.inj (Option.some.inj h)
    exact Text.isDecimal_digit (by omega : 0 < 10)
  · next hzero =>
    obtain ⟨hd, hhead⟩ := isDigits_of_readDigits h
    refine ⟨hd.ne_nil, hd.digits, Or.inr ?_⟩
    rw [hhead]
    intro he
    obtain ⟨r', rfl⟩ := List.head?_eq_some_iff.mp he
    exact hzero r' rfl

theorem isFraction_of_readFraction {t fraction r : Text}
    (h : readFraction t = some (fraction, r)) : IsFraction fraction := by
  unfold readFraction at h
  split at h
  · obtain ⟨⟨ds, rest⟩, hd, he⟩ := Option.map_eq_some_iff.mp h
    obtain ⟨rfl, rfl⟩ := Prod.mk.inj he
    exact .digits (isDigits_of_readDigits hd).1
  · obtain ⟨rfl, rfl⟩ := Prod.mk.inj (Option.some.inj h)
    exact .absent

theorem isExponent_of_readExponent {t exponent r : Text}
    (h : readExponent t = some (exponent, r)) : IsExponent exponent := by
  rw [readExponent.eq_def] at h
  split at h
  · split_ifs at h with hmark
    · simp only [Bool.or_eq_true, decide_eq_true_eq] at hmark
      split at h
      · split_ifs at h with hsign
        · simp only [Bool.or_eq_true, decide_eq_true_eq] at hsign
          obtain ⟨⟨ds, rest⟩, hd, he⟩ := Option.map_eq_some_iff.mp h
          obtain ⟨rfl, rfl⟩ := Prod.mk.inj he
          exact .signed hmark hsign (isDigits_of_readDigits hd).1
        · obtain ⟨⟨ds, rest⟩, hd, he⟩ := Option.map_eq_some_iff.mp h
          obtain ⟨rfl, rfl⟩ := Prod.mk.inj he
          exact .unsigned hmark (isDigits_of_readDigits hd).1
      · exact absurd h (by simp)
    · obtain ⟨rfl, rfl⟩ := Prod.mk.inj (Option.some.inj h)
      exact .absent
  · obtain ⟨rfl, rfl⟩ := Prod.mk.inj (Option.some.inj h)
    exact .absent

theorem isNumeral_of_readNumber {t source r : Text} (h : readNumber t = some (source, r)) :
    IsNumeral source := by
  simp only [readNumber, Option.bind_eq_bind, Option.pure_def, Option.bind_eq_some_iff,
    Option.some.injEq, Prod.mk.injEq, Prod.exists] at h
  obtain ⟨whole, t₁, hw, fraction, t₂, hf, exponent, t₃, he, rfl, -⟩ := h
  exact .intro (isMinus_readMinus t) (isDecimal_of_readWhole hw) (isFraction_of_readFraction hf)
    (isExponent_of_readExponent he)

/-- A number starts with a digit or a minus, and so is told from all other values. -/
theorem IsNumeral.head {source : Text} (h : IsNumeral source) :
    ∃ u t, source = u :: t ∧ (u = 0x2D ∨ u.isDigit = true) := by
  obtain ⟨hm, hw, hf, he⟩ := h
  rename_i minus whole fraction exponent
  cases hm with
  | present => exact ⟨0x2D, whole ++ fraction ++ exponent, by simp, Or.inl rfl⟩
  | absent =>
    obtain ⟨u, t, rfl⟩ := List.exists_cons_of_ne_nil hw.ne_nil
    exact ⟨u, t ++ fraction ++ exponent, by simp, Or.inr (hw.digits u (by simp))⟩

end ZoneKeeper.Json
