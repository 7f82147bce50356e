import Mathlib
import ZoneKeeper.Json.Writer
import ZoneKeeper.Proofs.Json.Canonical

namespace ZoneKeeper.Json

theorem hexValue?_hexDigit {n : ℕ} (h : n < 16) : CodeUnit.hexValue? (hexDigit n) = some n := by
  interval_cases n <;> rfl

theorem ofHex?_hexDigit (u : CodeUnit) :
    ofHex? (hexDigit (u.toNat / 0x1000)) (hexDigit (u.toNat / 0x100 % 0x10))
      (hexDigit (u.toNat / 0x10 % 0x10)) (hexDigit (u.toNat % 0x10)) = some u := by
  have hu : u.toNat < 0x10000 := u.toNat_lt
  rw [ofHex?, hexValue?_hexDigit (by omega), hexValue?_hexDigit (by omega),
    hexValue?_hexDigit (by omega), hexValue?_hexDigit (by omega)]
  simp only [Option.bind_eq_bind, Option.bind_some, Option.pure_def, Option.some.injEq]
  rw [show u.toNat / 0x1000 * 0x1000 + u.toNat / 0x100 % 0x10 * 0x100 +
    u.toNat / 0x10 % 0x10 * 0x10 + u.toNat % 0x10 = u.toNat by omega]
  simp

def prepend (u : CodeUnit) (p : Text × Text) : Text × Text := (u :: p.1, p.2)

theorem readUnits_raw {u : CodeUnit} (hquote : u ≠ 0x22) (hslash : u ≠ 0x5C) (hge : ¬ u < 0x20)
    (t : Text) : readUnits (u :: t) = (readUnits t).map (prepend u) := by
  rw [readUnits.eq_def]
  split
  · next heq => exact absurd (List.cons.inj heq).1 hquote
  · next heq => exact absurd (List.cons.inj heq).1 hslash
  · next heq => exact absurd (List.cons.inj heq).1 hslash
  · next heq =>
    obtain ⟨rfl, rfl⟩ := List.cons.inj heq
    rw [if_neg (by simp [hge, hslash]), Option.map_eq_bind]
    rfl
  · next heq => exact absurd heq (by simp)

theorem readUnits_escape {e u : CodeUnit} (hu : unescape? e = some u) (he : e ≠ 0x75) (t : Text) :
    readUnits (0x5C :: e :: t) = (readUnits t).map (prepend u) := by
  rw [readUnits.eq_def]
  split
  · next heq => exact absurd (List.cons.inj heq).1 (by decide)
  · next heq => exact absurd (List.cons.inj (List.cons.inj heq).2).1 he
  · next heq =>
    obtain ⟨rfl, rfl⟩ := List.cons.inj (List.cons.inj heq).2
    rw [hu, Option.map_eq_bind]
    rfl
  · next hno heq =>
    obtain ⟨rfl, rfl⟩ := List.cons.inj heq
    exact absurd rfl (hno e t rfl)
  · next heq => exact absurd heq (by simp)

theorem readUnits_escapeByNumber (u : CodeUnit) (t : Text) :
    readUnits (escapeByNumber u ++ t) = (readUnits t).map (prepend u) := by
  simp only [escapeByNumber, List.cons_append, List.nil_append]
  rw [readUnits, ofHex?_hexDigit, Option.map_eq_bind]
  rfl

theorem readUnits_writeUnit (u : CodeUnit) (t : Text) :
    readUnits (writeUnit u ++ t) = (readUnits t).map (prepend u) := by
  -- The seven short escapes, the escape by number, and the unit as it is.
  unfold writeUnit
  split_ifs with h1 h2 h3 h4 h5 h6 h7 h8
  · subst h1
    exact readUnits_escape rfl (by decide) t
  · subst h2
    exact readUnits_escape rfl (by decide) t
  · subst h3
    exact readUnits_escape rfl (by decide) t
  · subst h4
    exact readUnits_escape rfl (by decide) t
  · subst h5
    exact readUnits_escape rfl (by decide) t
  · subst h6
    exact readUnits_escape rfl (by decide) t
  · subst h7
    exact readUnits_escape rfl (by decide) t
  · exact readUnits_escapeByNumber u t
  · simp only [Bool.or_eq_true, decide_eq_true_eq, not_or] at h8
    exact readUnits_raw h1 h2 h8.1.1 t

theorem readUnits_half {u : CodeUnit} (h : u.isHalf = true) (t : Text) :
    readUnits (u :: t) = (readUnits t).map (prepend u) := by
  have hu : ¬ (u.toNat < 0xD800 ∨ 0xDFFF < u.toNat) := by
    rw [← CodeUnit.isHalf_eq_false_iff, h]
    simp
  refine readUnits_raw ?_ ?_ ?_ t
  · rintro rfl
    simp at hu
  · rintro rfl
    simp at hu
  · rw [UInt16.lt_iff_toNat_lt]
    simp
    omega

theorem readUnits_writeUnits (s r : Text) :
    readUnits (writeUnits s ++ 0x22 :: r) = some (s, r) := by
  -- Along the recursion of the writer: a pair of halves is written raw, other units one by one.
  induction s using writeUnits.induct with
  | case1 => rw [writeUnits, List.nil_append, readUnits]
  | case2 u =>
    rw [writeUnits, readUnits_writeUnit, readUnits]
    rfl
  | case3 u v t hpair ih =>
    rw [Bool.and_eq_true] at hpair
    rw [writeUnits, if_pos (by simpa using hpair), List.cons_append, List.cons_append,
      readUnits_half (by simp [CodeUnit.isHalf, hpair]),
      readUnits_half (by simp [CodeUnit.isHalf, hpair]), ih]
    rfl
  | case4 u v t hpair ih =>
    rw [writeUnits, if_neg hpair, List.append_assoc, readUnits_writeUnit, ih]
    rfl

def opens (u : CodeUnit) : Bool :=
  u = 0x22 || u = 0x5B || u = 0x7B || u = 0x6E || u = 0x74 || u = 0x66 || u = 0x2D || u.isDigit

theorem write_head {v : Json} (h : Canonical v) : ∃ u t, v.write = u :: t ∧ opens u = true := by
  cases h with
  | null => exact ⟨_, _, rfl, rfl⟩
  | bool b => cases b <;> exact ⟨_, _, rfl, rfl⟩
  | number h =>
    obtain ⟨u, t, rfl, hu⟩ := h.head
    refine ⟨u, t, by rw [write], ?_⟩
    rcases hu with rfl | hu
    · rfl
    · simp [opens, hu]
  | string s => exact ⟨_, _, by rw [write, writeString, List.cons_append], rfl⟩
  | array => exact ⟨_, _, by rw [write, List.cons_append], rfl⟩
  | object => exact ⟨_, _, by rw [write, List.cons_append], rfl⟩

theorem isGap_of_opens {u : CodeUnit} (h : opens u = true) : isGap u = false := by
  simp only [opens, Bool.or_eq_true, decide_eq_true_eq] at h
  rcases h with ((((((rfl | rfl) | rfl) | rfl) | rfl) | rfl) | rfl) | hd
  · rfl
  · rfl
  · rfl
  · rfl
  · rfl
  · rfl
  · rfl
  · rw [Text.isDigit_iff] at hd
    simp only [isGap, Bool.or_eq_false_iff, decide_eq_false_iff_not, ← UInt16.toNat_inj]
    simp
    omega

theorem skipGaps_cons {u : CodeUnit} (h : isGap u = false) (t : Text) :
    skipGaps (u :: t) = u :: t :=
  List.dropWhile_cons_of_neg (by simpa using h)

section Values
variable {fits : Json → Json → Bool}

theorem readValue_number {source r : Text} {n : ℕ} (h : IsNumeral source) (hr : Stops r) :
    readValue fits (n + 1) (source ++ r) = some (number source, r) := by
  obtain ⟨u, t, he, hu⟩ := h.head
  have hskip : skipGaps (source ++ r) = u :: (t ++ r) := by
    rw [he, List.cons_append]
    apply skipGaps_cons
    apply isGap_of_opens
    rcases hu with rfl | hu
    · rfl
    · simp [opens, hu]
  have hread := readNumber_append h hr
  rw [he, List.cons_append] at hread
  -- A number starts with a digit or a minus, so none of the other forms of a value is tried.
  have hne : ∀ w : CodeUnit, w.isDigit = false → w ≠ 0x2D → u ≠ w := by
    rintro w hw hm rfl
    rcases hu with h | h
    · exact hm h
    · rw [hw] at h
      exact Bool.noConfusion h
  unfold readValue
  rw [hskip]
  split
  · next heq => exact absurd (List.cons.inj heq).1 (hne _ (by decide) (by decide))
  · next heq => exact absurd (List.cons.inj heq).1 (hne _ (by decide) (by decide))
  · next heq => exact absurd (List.cons.inj heq).1 (hne _ (by decide) (by decide))
  · next heq => exact absurd (List.cons.inj heq).1 (hne _ (by decide) (by decide))
  · next heq => exact absurd (List.cons.inj heq).1 (hne _ (by decide) (by decide))
  · next heq => exact absurd (List.cons.inj heq).1 (hne _ (by decide) (by decide))
  · rw [hread, he]
    rfl

/-- Written text is read back to its end, with enough fuel. -/
structure Restores (fits : Json → Json → Bool) (n : ℕ) : Prop where
  value : ∀ {v r}, Canonical v → 2 * v.write.length ≤ n → Stops r →
    readValue fits n (v.write ++ r) = some (v, r)
  items : ∀ {vs r}, vs ≠ [] → (∀ v ∈ vs, Canonical v) → 2 * (writeItems vs).length + 1 ≤ n →
    readItems fits n (writeItems vs ++ 0x5D :: r) = some (vs, r)
  members : ∀ {before ms r}, ms ≠ [] → Members.Ordered (before ++ ms) →
    (∀ m ∈ ms, Canonical m.2) → 2 * (writeMembers ms).length + 1 ≤ n →
    readMembers fits n before (writeMembers ms ++ 0x7D :: r) = some (before ++ ms, r)

theorem stops_comma (t : Text) : Stops (0x2C :: t) := stops_cons (by decide) t

theorem stops_bracket (t : Text) : Stops (0x5D :: t) := stops_cons (by decide) t

theorem stops_brace (t : Text) : Stops (0x7D :: t) := stops_cons (by decide) t

theorem writeItems_cons {v : Json} {rest : List Json} (h : rest ≠ []) :
    writeItems (v :: rest) = v.write ++ 0x2C :: writeItems rest := by
  obtain ⟨w, rest, rfl⟩ := List.exists_cons_of_ne_nil h
  rw [writeItems]

theorem writeMembers_cons {k : Text} {v : Json} {rest : Members} (h : rest ≠ []) :
    writeMembers ((k, v) :: rest) =
      writeString k ++ 0x3A :: v.write ++ 0x2C :: writeMembers rest := by
  obtain ⟨m, rest, rfl⟩ := List.exists_cons_of_ne_nil h
  rw [writeMembers]

theorem readItems_writeItems {n : ℕ} (ih : Restores fits n) {vs : List Json} {r : Text}
    (hne : vs ≠ []) (h : ∀ v ∈ vs, Canonical v) (hn : 2 * (writeItems vs).length + 1 ≤ n + 1) :
    readItems fits (n + 1) (writeItems vs ++ 0x5D :: r) = some (vs, r) := by
  obtain ⟨v, rest, rfl⟩ := List.exists_cons_of_ne_nil hne
  have hv : Canonical v := h v (by simp)
  unfold readItems
  by_cases hrest : rest = []
  · subst hrest
    rw [writeItems] at hn ⊢
    rw [ih.value hv (by omega) (stops_bracket r)]
    simp only [Option.bind_eq_bind, Option.bind_some]
    rw [skipGaps_cons (by decide)]
    rfl
  · rw [writeItems_cons hrest] at hn ⊢
    simp only [List.length_append, List.length_cons] at hn
    rw [List.append_assoc, List.cons_append, ih.value hv (by omega) (stops_comma _)]
    simp only [Option.bind_eq_bind, Option.bind_some]
    rw [skipGaps_cons (by decide)]
    simp only
    rw [ih.items hrest (fun w hw => h w (by simp [hw])) (by omega)]
    rfl

/-- The first member is read, and what stands behind it decides how to go on. -/
theorem readMembers_member {n : ℕ} (ih : Restores fits n) {before : Members} {k : Text} {v : Json}
    {r : Text} (hbefore : ∀ m ∈ before, Members.Before m.1 k) (hv : Canonical v)
    (hn : 2 * v.write.length ≤ n) (hr : Stops r) :
    readMembers fits (n + 1) before (writeString k ++ 0x3A :: v.write ++ r) =
      match skipGaps r with
      | 0x2C :: r => readMembers fits n (before ++ [(k, v)]) r
      | 0x7D :: r => some (before ++ [(k, v)], r)
      | _ => none := by
  have hget : before.get? k = none :=
    Members.get?_eq_none_iff.mpr fun m hm => (hbefore m hm).1
  have hins : before.insert k v = before ++ [(k, v)] := Members.insert_of_forall_before v hbefore
  rw [readMembers, writeString]
  simp only [List.cons_append, List.append_assoc, List.nil_append]
  rw [skipGaps_cons (by decide)]
  simp only [readUnits_writeUnits, Option.bind_eq_bind, Option.bind_some]
  rw [skipGaps_cons (by decide)]
  simp only
  rw [ih.value hv hn hr]
  simp only [Option.bind_some]
  rw [hget, if_pos (by rfl), hins]
  rfl

theorem readMembers_writeMembers {n : ℕ} (ih : Restores fits n) {before ms : Members} {r : Text}
    (hne : ms ≠ []) (ho : Members.Ordered (before ++ ms)) (h : ∀ m ∈ ms, Canonical m.2)
    (hn : 2 * (writeMembers ms).length + 1 ≤ n + 1) :
    readMembers fits (n + 1) before (writeMembers ms ++ 0x7D :: r) = some (before ++ ms, r) := by
  obtain ⟨⟨k, v⟩, rest, rfl⟩ := List.exists_cons_of_ne_nil hne
  have hv : Canonical v := h (k, v) (by simp)
  have hbefore : ∀ m ∈ before, Members.Before m.1 k :=
    fun m hm => (List.pairwise_append.mp ho).2.2 m hm (k, v) (by simp)
  by_cases hrest : rest = []
  · subst hrest
    rw [writeMembers] at hn ⊢
    simp only [List.length_append, List.length_cons] at hn
    rw [readMembers_member ih hbefore hv (by omega) (stops_brace r), skipGaps_cons (by decide)]
    rfl
  · rw [writeMembers_cons hrest] at hn ⊢
    simp only [List.length_append, List.length_cons] at hn
    rw [List.append_assoc _ (0x2C :: writeMembers rest), List.cons_append,
      readMembers_member ih hbefore hv (by omega) (stops_comma _), skipGaps_cons (by decide)]
    simp only
    rw [ih.members hrest (by simpa using ho) (fun m hm => h m (by simp [hm])) (by omega),
      List.append_assoc, List.singleton_append]

theorem writeItems_head {vs : List Json} (hne : vs ≠ []) (h : ∀ v ∈ vs, Canonical v) :
    ∃ u t, writeItems vs = u :: t ∧ opens u = true := by
  obtain ⟨v, rest, rfl⟩ := List.exists_cons_of_ne_nil hne
  obtain ⟨u, t, he, hu⟩ := write_head (h v (by simp))
  by_cases hrest : rest = []
  · subst hrest
    exact ⟨u, t, by rw [writeItems, he], hu⟩
  · exact ⟨u, t ++ 0x2C :: writeItems rest, by rw [writeItems_cons hrest, he, List.cons_append], hu⟩

theorem readValue_array {n : ℕ} (ih : Restores fits n) {vs : List Json} {r : Text}
    (h : ∀ v ∈ vs, Canonical v) (hn : 2 * (write (array vs)).length ≤ n + 1) :
    readValue fits (n + 1) (write (array vs) ++ r) = some (array vs, r) := by
  rw [write] at hn ⊢
  simp only [List.length_append, List.length_cons, List.length_nil] at hn
  simp only [List.cons_append, List.append_assoc, List.nil_append]
  unfold readValue
  rw [skipGaps_cons (by decide)]
  simp only
  by_cases hne : vs = []
  · subst hne
    rw [writeItems, List.nil_append, skipGaps_cons (by decide)]
    rfl
  · obtain ⟨u, t, he, hu⟩ := writeItems_head hne h
    have hskip : skipGaps (writeItems vs ++ 0x5D :: r) = writeItems vs ++ 0x5D :: r := by
      rw [he, List.cons_append, skipGaps_cons (isGap_of_opens hu)]
    rw [hskip]
    split
    · next heq =>
      rw [he, List.cons_append] at heq
      rw [(List.cons.inj heq).1] at hu
      exact absurd hu (by decide)
    · rw [ih.items hne h (by omega)]
      rfl

theorem writeMembers_head {ms : Members} (hne : ms ≠ []) : ∃ t, writeMembers ms = 0x22 :: t := by
  obtain ⟨⟨k, v⟩, rest, rfl⟩ := List.exists_cons_of_ne_nil hne
  by_cases hrest : rest = []
  · subst hrest
    exact ⟨_, by rw [writeMembers, writeString]; rfl⟩
  · exact ⟨_, by rw [writeMembers_cons hrest, writeString]; rfl⟩

theorem readValue_object {n : ℕ} (ih : Restores fits n) {ms : Members} {r : Text}
    (ho : ms.Ordered) (h : ∀ m ∈ ms, Canonical m.2)
    (hn : 2 * (write (object ms)).length ≤ n + 1) :
    readValue fits (n + 1) (write (object ms) ++ r) = some (object ms, r) := by
  rw [write] at hn ⊢
  simp only [List.length_append, List.length_cons, List.length_nil] at hn
  simp only [List.cons_append, List.append_assoc, List.nil_append]
  unfold readValue
  rw [skipGaps_cons (by decide)]
  simp only
  by_cases hne : ms = []
  · subst hne
    rw [writeMembers, List.nil_append, skipGaps_cons (by decide)]
    rfl
  · obtain ⟨t, he⟩ := writeMembers_head hne
    have hskip : skipGaps (writeMembers ms ++ 0x7D :: r) = writeMembers ms ++ 0x7D :: r := by
      rw [he, List.cons_append, skipGaps_cons (by decide)]
    rw [hskip]
    split
    · next heq =>
      rw [he, List.cons_append] at heq
      exact absurd (List.cons.inj heq).1 (by decide)
    · rw [ih.members hne (by simpa using ho) h (by omega)]
      rfl

theorem readValue_write {n : ℕ} (ih : Restores fits n) {v : Json} {r : Text} (h : Canonical v)
    (hn : 2 * v.write.length ≤ n + 1) (hr : Stops r) :
    readValue fits (n + 1) (v.write ++ r) = some (v, r) := by
  cases h with
  | null => rfl
  | bool b => cases b <;> rfl
  | number h => exact readValue_number h hr
  | string s =>
    unfold readValue
    rw [write, writeString]
    simp only [List.cons_append, List.append_assoc, List.nil_append]
    rw [skipGaps_cons (by decide)]
    simp only [readUnits_writeUnits]
    rfl
  | array h => exact readValue_array ih h hn
  | object ho h => exact readValue_object ih ho h hn

theorem restores (n : ℕ) : Restores fits n := by
  induction n with
  | zero =>
    refine ⟨?_, ?_, ?_⟩
    · intro v r h hn
      obtain ⟨u, t, he, -⟩ := write_head h
      simp [he] at hn
    · intro vs r _ _ hn
      omega
    · intro before ms r _ _ _ hn
      omega
  | succ n ih =>
    exact ⟨readValue_write ih, readItems_writeItems ih, readMembers_writeMembers ih⟩

/-- A value that reading can give comes back from its text, whatever keys may be repeated. -/
theorem read?_write {v : Json} (h : Canonical v) : read? fits v.write = some v := by
  have hrestores : Restores fits (2 * (v.write.length + 1)) := restores _
  have hread := hrestores.value (r := []) h (by omega) stops_nil
  rw [List.append_nil] at hread
  simp only [read?, hread, Option.bind_eq_bind, Option.bind_some]
  rfl

end Values

theorem isHalf_hexDigit {n : ℕ} (h : n < 16) : (hexDigit n).isHalf = false := by
  interval_cases n <;> rfl

theorem spelled_escapeByNumber (u : CodeUnit) : Text.Spelled (escapeByNumber u) := by
  have hu : u.toNat < 0x10000 := u.toNat_lt
  exact .cons rfl (.cons rfl (.cons (isHalf_hexDigit (by omega)) (.cons (isHalf_hexDigit (by omega))
    (.cons (isHalf_hexDigit (by omega)) (Text.spelled_unit (isHalf_hexDigit (by omega)))))))

theorem spelled_writeUnit (u : CodeUnit) : Text.Spelled (writeUnit u) := by
  unfold writeUnit
  split_ifs with h1 h2 h3 h4 h5 h6 h7 h8
  · exact .cons rfl (Text.spelled_unit rfl)
  · exact .cons rfl (Text.spelled_unit rfl)
  · exact .cons rfl (Text.spelled_unit rfl)
  · exact .cons rfl (Text.spelled_unit rfl)
  · exact .cons rfl (Text.spelled_unit rfl)
  · exact .cons rfl (Text.spelled_unit rfl)
  · exact .cons rfl (Text.spelled_unit rfl)
  · exact spelled_escapeByNumber u
  · apply Text.spelled_unit
    simp only [Bool.or_eq_true, not_or, Bool.not_eq_true] at h8
    simp [CodeUnit.isHalf, h8]

theorem spelled_writeUnits (s : Text) : Text.Spelled (writeUnits s) := by
  induction s using writeUnits.induct with
  | case1 => exact Text.spelled_nil
  | case2 u =>
    rw [writeUnits]
    exact spelled_writeUnit u
  | case3 u v t hpair ih =>
    rw [Bool.and_eq_true] at hpair
    rw [writeUnits, if_pos (by simpa using hpair)]
    exact (Text.spelled_pair hpair.1 hpair.2).append ih
  | case4 u v t hpair ih =>
    rw [writeUnits, if_neg hpair]
    exact (spelled_writeUnit u).append ih

theorem spelled_writeString (s : Text) : Text.Spelled (writeString s) :=
  .cons rfl ((spelled_writeUnits s).append (Text.spelled_unit rfl))

theorem IsDigits.spelled {t : Text} (h : IsDigits t) : Text.Spelled t := by
  apply Text.spelled_of_forall
  intro u hu
  have hd := (Text.isDigit_iff u).mp (h.digits u hu)
  rw [CodeUnit.isHalf_eq_false_iff]
  omega

theorem IsNumeral.spelled {source : Text} (h : IsNumeral source) : Text.Spelled source := by
  obtain ⟨hm, hw, hf, he⟩ := h
  refine .append (.append (.append ?_ (IsDigits.spelled ⟨hw.ne_nil, hw.digits⟩)) ?_) ?_
  · cases hm with
    | absent => exact Text.spelled_nil
    | present => exact Text.spelled_unit rfl
  · cases hf with
    | absent => exact Text.spelled_nil
    | digits h => exact .cons rfl h.spelled
  · cases he with
    | absent => exact Text.spelled_nil
    | unsigned he h => rcases he with rfl | rfl <;> exact .cons rfl h.spelled
    | signed he hs h =>
      rcases he with rfl | rfl <;> rcases hs with rfl | rfl <;>
        exact .cons rfl (.cons rfl h.spelled)

theorem spelled_writeItems {vs : List Json} (h : ∀ v ∈ vs, Text.Spelled v.write) :
    Text.Spelled (writeItems vs) := by
  induction vs with
  | nil => exact Text.spelled_nil
  | cons v rest ih =>
    have hv := h v (by simp)
    by_cases hrest : rest = []
    · subst hrest
      rwa [writeItems]
    · rw [writeItems_cons hrest]
      exact hv.append (.cons rfl (ih fun w hw => h w (by simp [hw])))

theorem spelled_writeMembers {ms : Members} (h : ∀ m ∈ ms, Text.Spelled m.2.write) :
    Text.Spelled (writeMembers ms) := by
  induction ms with
  | nil => exact Text.spelled_nil
  | cons m rest ih =>
    obtain ⟨k, v⟩ := m
    have hm : Text.Spelled (writeString k ++ 0x3A :: v.write) :=
      (spelled_writeString k).append (.cons rfl (h (k, v) (by simp)))
    by_cases hrest : rest = []
    · subst hrest
      rwa [writeMembers]
    · rw [writeMembers_cons hrest]
      exact hm.append (.cons rfl (ih fun n hn => h n (by simp [hn])))

/-- Written text is spelled in characters, whatever units the strings of the value hold. -/
theorem spelled_write {v : Json} (h : Canonical v) : Text.Spelled v.write := by
  induction h with
  | null => exact Text.spelled_ofString "null"
  | bool b =>
    cases b with
    | false => exact Text.spelled_ofString "false"
    | true => exact Text.spelled_ofString "true"
  | number h =>
    rw [write]
    exact h.spelled
  | string s =>
    rw [write]
    exact spelled_writeString s
  | array _ ih =>
    rw [write]
    exact .cons rfl ((spelled_writeItems ih).append (Text.spelled_unit rfl))
  | object _ _ ih =>
    rw [write]
    exact .cons rfl ((spelled_writeMembers ih).append (Text.spelled_unit rfl))

end ZoneKeeper.Json
