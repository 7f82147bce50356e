import Mathlib
import ZoneKeeper.Proofs.Domain
import ZoneKeeper.Proofs.Domain.Pattern

namespace ZoneKeeper.Domain

/-- A label in front of the last one. -/
structure InnerLabel (l : Text) : Prop where
  length_pos : 1 ≤ l.length
  length_le : l.length ≤ 63
  units : ∀ u ∈ l, u.isLetter = true ∨ u.isDigit = true ∨ u = 0x5F ∨ u = 0x2D
  first : l.head? ≠ some 0x2D
  last : l.getLast? ≠ some 0x2D

/-- The last label: letters, or the mark of an encoded label with what is encoded. -/
inductive TopLabel : Text → Prop
  | letters {l : Text} (hmin : 2 ≤ l.length) (hmax : l.length ≤ 63)
    (h : ∀ u ∈ l, u.isLetter = true) : TopLabel l
  | encoded {mark rest : Text} (hmark : mark.toLower = encodedMark) (hmin : 1 ≤ rest.length)
    (hmax : rest.length ≤ 59) (h : ∀ u ∈ rest, u.isLetter = true ∨ u.isDigit = true ∨ u = 0x2D) :
    TopLabel (mark ++ rest)

/-- A name of two labels at least. -/
structure IsName (name : Text) : Prop where
  length_le : name.length ≤ 253
  labels : ∃ inner top, name.splitOn 0x2E = inner ++ [top] ∧ inner ≠ [] ∧
    (∀ l ∈ inner, InnerLabel l) ∧ TopLabel top

section Labels
variable {l : Text}

theorem isNameUnit_iff {u : CodeUnit} :
    isNameUnit u = true ↔ u.isLetter = true ∨ u.isDigit = true ∨ u = 0x5F ∨ u = 0x2D := by
  simp only [isNameUnit, Bool.or_eq_true, decide_eq_true_eq]
  tauto

theorem isLabel_iff : isLabel l = true ↔ InnerLabel l := by
  simp only [isLabel, Bool.and_eq_true, decide_eq_true_eq, List.all_eq_true, isNameUnit_iff]
  constructor
  · rintro ⟨⟨⟨⟨hpos, hle⟩, hunits⟩, hfirst⟩, hlast⟩
    exact ⟨hpos, hle, hunits, hfirst, hlast⟩
  · rintro ⟨hpos, hle, hunits, hfirst, hlast⟩
    exact ⟨⟨⟨⟨hpos, hle⟩, hunits⟩, hfirst⟩, hlast⟩

theorem length_of_mark {mark : Text} (h : mark.toLower = encodedMark) : mark.length = 4 := by
  have hlength : encodedMark.length = 4 := by decide +kernel
  rw [← Text.length_toLower, h, hlength]

theorem isTopLabel_iff : isTopLabel l = true ↔ TopLabel l := by
  simp only [isTopLabel, Bool.or_eq_true, Bool.and_eq_true, decide_eq_true_eq, List.all_eq_true]
  constructor
  · rintro (⟨⟨hmin, hmax⟩, hall⟩ | ⟨⟨⟨hmin, hmax⟩, hmark⟩, hall⟩)
    · exact .letters hmin hmax hall
    · have hencoded : TopLabel (l.take 4 ++ l.drop 4) :=
        .encoded hmark (by simp; omega) (by simp; omega)
          (fun u hu => by simpa [or_assoc] using hall u hu)
      rwa [List.take_append_drop] at hencoded
  · intro h
    cases h with
    | letters hmin hmax hall => exact Or.inl ⟨⟨hmin, hmax⟩, hall⟩
    | @encoded mark rest hmark hmin hmax hall =>
      have hlength : mark.length = 4 := length_of_mark hmark
      right
      rw [List.length_append, List.take_left' hlength, List.drop_left' hlength]
      exact ⟨⟨⟨by omega, by omega⟩, hmark⟩, fun u hu => by simpa [or_assoc] using hall u hu⟩

theorem isSmallNameUnit_toLower (u : CodeUnit) :
    isSmallNameUnit u.toLower = true ↔
      u.isLetter = true ∨ u.isDigit = true ∨ u = 0x5F ∨ u = 0x2D := by
  simp only [isSmallNameUnit, isSmallWordUnit, CodeUnit.isLower_toLower, CodeUnit.isDigit_toLower,
    toLower_eq_lowLine, toLower_eq_hyphen, Bool.or_eq_true, decide_eq_true_eq, or_assoc]

theorem isSmallEncodedUnit_toLower (u : CodeUnit) :
    isSmallEncodedUnit u.toLower = true ↔ u.isLetter = true ∨ u.isDigit = true ∨ u = 0x2D := by
  simp only [isSmallEncodedUnit, CodeUnit.isLower_toLower, CodeUnit.isDigit_toLower,
    toLower_eq_hyphen, Bool.or_eq_true, decide_eq_true_eq, or_assoc]

theorem map_toLower_eq_hyphen {u? : Option CodeUnit} :
    u?.map CodeUnit.toLower = some 0x2D ↔ u? = some 0x2D := by
  cases u? with
  | none => simp
  | some u => simp [toLower_eq_hyphen]

theorem innerLabel_iff : InnerLabel l ↔ l.toLower ∈ labelPattern := by
  simp only [mem_labelPattern, Text.toLower, List.length_map, List.forall_mem_map,
    List.head?_map, List.getLast?_map, Ne, map_toLower_eq_hyphen, isSmallNameUnit_toLower]
  constructor
  · rintro ⟨hpos, hle, hunits, hfirst, hlast⟩
    exact ⟨hpos, hle, hunits, hfirst, hlast⟩
  · rintro ⟨hpos, hle, hunits, hfirst, hlast⟩
    exact ⟨hpos, hle, hunits, hfirst, hlast⟩

theorem topLabel_iff : TopLabel l ↔ l.toLower ∈ topLabelPattern := by
  rw [mem_topLabelPattern, Text.length_toLower]
  simp only [Text.toLower, List.forall_mem_map, CodeUnit.isLower_toLower]
  constructor
  · intro h
    cases h with
    | letters hmin hmax hall => exact Or.inl ⟨hmin, hmax, hall⟩
    | @encoded mark rest hmark hmin hmax hall =>
      refine Or.inr ⟨rest.map CodeUnit.toLower, ?_, by simpa, by simpa, ?_⟩
      · rw [List.map_append]
        exact congrArg (· ++ rest.map CodeUnit.toLower) hmark
      · simpa [isSmallEncodedUnit_toLower] using hall
  · rintro (⟨hmin, hmax, hall⟩ | ⟨low, hlow, hmin, hmax, hall⟩)
    · exact .letters hmin hmax hall
    -- The lowered text splits behind the mark, and so does the text itself.
    · obtain ⟨mark, rest, rfl, hmark, rfl⟩ := List.map_eq_append_iff.mp hlow
      refine .encoded hmark (by simpa using hmin) (by simpa using hmax) ?_
      simpa [isSmallEncodedUnit_toLower] using hall

theorem isLabel_toLower (l : Text) : isLabel l.toLower = isLabel l := by
  rw [Bool.eq_iff_iff, isLabel_iff, isLabel_iff, innerLabel_iff, innerLabel_iff,
    Text.toLower_toLower]

theorem isTopLabel_toLower (l : Text) : isTopLabel l.toLower = isTopLabel l := by
  rw [Bool.eq_iff_iff, isTopLabel_iff, isTopLabel_iff, topLabel_iff, topLabel_iff,
    Text.toLower_toLower]

end Labels

section Names
variable {name : Text}

theorem isValid_iff_labels :
    isValid name = true ↔ name.length ≤ 253 ∧ ∃ inner top, labels name = inner ++ [top] ∧
      inner ≠ [] ∧ (∀ l ∈ inner, isLabel l = true) ∧ isTopLabel top = true := by
  have hreverse : ∀ inner top, labels name = inner ++ [top] ↔
      (labels name).reverse = top :: inner.reverse := by
    intro inner top
    rw [← List.reverse_inj, List.reverse_append]
    rfl
  rw [isValid, Bool.and_eq_true, decide_eq_true_iff, maxLength]
  refine and_congr_right fun _ => ?_
  cases h : (labels name).reverse with
  | nil => simp [hreverse, h]
  | cons top inner =>
    simp only [hreverse, h, List.cons.injEq, Bool.and_eq_true, decide_eq_true_eq, List.all_eq_true]
    constructor
    · rintro ⟨⟨htop, hne⟩, hall⟩
      exact ⟨inner.reverse, top, ⟨rfl, by simp⟩, by simpa using hne, by simpa using hall, htop⟩
    · rintro ⟨inner', top', ⟨rfl, rfl⟩, hne, hall, htop⟩
      exact ⟨⟨htop, by simpa using hne⟩, by simpa using hall⟩

theorem isValid_iff_isName : isValid name = true ↔ IsName name := by
  simp only [isValid_iff_labels, isLabel_iff, isTopLabel_iff]
  constructor
  · rintro ⟨hlength, hlabels⟩
    exact ⟨hlength, hlabels⟩
  · rintro ⟨hlength, hlabels⟩
    exact ⟨hlength, hlabels⟩

theorem isValid_toLower (name : Text) : isValid name.toLower = isValid name := by
  have hdot : (0x2E : CodeUnit).isLetter = false := by decide
  have hlabels : labels name.toLower = (labels name).map Text.toLower :=
    Text.splitOn_toLower hdot name
  rw [isValid, isValid, Text.length_toLower, hlabels, ← List.map_reverse]
  cases (labels name).reverse with
  | nil => rfl
  | cons top inner =>
    have hall : (inner.map Text.toLower).all isLabel = inner.all isLabel := by
      rw [List.all_map]
      exact congrArg inner.all (funext isLabel_toLower)
    simp [isTopLabel_toLower, hall]

end Names

/-- The valid names are exactly those of the grammar, and the labels of the grammar are those that
match the patterns in either case. No unit but those of labels and dots stands in a valid name, and
names that differ in the case of letters only are valid together. -/
theorem isValid_grammar :
    (∀ name, isValid name = true ↔ IsName name) ∧
    (∀ l, InnerLabel l ↔ l.toLower ∈ labelPattern) ∧
    (∀ l, TopLabel l ↔ l.toLower ∈ topLabelPattern) ∧
    (∀ name, isValid name = true → ∀ u ∈ name,
      u.isLetter = true ∨ u.isDigit = true ∨ u = 0x5F ∨ u = 0x2D ∨ u = 0x2E) ∧
    ∀ name name' : Text, name.toLower = name'.toLower → isValid name = isValid name' := by
  refine ⟨fun _ => isValid_iff_isName, fun _ => innerLabel_iff, fun _ => topLabel_iff, ?_, ?_⟩
  · intro name h u hu
    rcases isNameUnit_of_isValid h hu with rfl | hname
    · simp
    · rcases isNameUnit_iff.mp hname with h | h | h | h <;> simp [h]
  · intro name name' h
    rw [← isValid_toLower name, h, isValid_toLower]

/-- A name of one label with low lines and one with an encoded top label, in both cases. -/
theorem isValid_grammar_encoded :
    let name : Text := "_Acme-1.XN--p1AI"
    let name' : Text := "_acme-1.xn--p1ai"
    (isValid name = true ∧ IsName name) ∧
    (∀ u ∈ name, u.isLetter = true ∨ u.isDigit = true ∨ u = 0x5F ∨ u = 0x2D ∨ u = 0x2E) ∧
    name.toLower = name'.toLower ∧ isValid name = isValid name' := by
  intro name name'
  have h : isValid name = true := by decide +kernel
  have hcase : name.toLower = name'.toLower := by decide +kernel
  obtain ⟨hgrammar, -, -, hunits, hlower⟩ := isValid_grammar
  exact ⟨⟨h, (hgrammar name).mp h⟩, hunits name h, hcase, hlower name name' hcase⟩

example : isValid (Text.ofString "example.\u212Aim") = false := by decide +kernel

end ZoneKeeper.Domain
