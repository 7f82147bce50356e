import Mathlib
import ZoneKeeper.Proofs.Text.SingleLine

namespace ZoneKeeper

/-- A blank or a control. No word has one. -/
def CodeUnit.isGap (u : CodeUnit) : Bool := u.isBlank || u.isControl

namespace Text

/-- The longest runs of units that are no gaps, in order. -/
inductive Runs : Text → List Text → Prop
  | nil : Runs [] []
  | gap {u : CodeUnit} {rest : Text} {ws : List Text} (hu : u.isGap = true) (h : Runs rest ws) :
    Runs (u :: rest) ws
  | word {w rest : Text} {ws : List Text} (hne : w ≠ []) (hw : ∀ u ∈ w, u.isGap = false)
    (hend : ∀ u ∈ rest.head?, u.isGap = true) (h : Runs rest ws) : Runs (w ++ rest) (w :: ws)

def words (t : Text) : List Text := (t.splitOnP CodeUnit.isGap).filter (· ≠ [])

section Words
variable {u : CodeUnit} {s t : Text}

theorem isGap_of_isBlank (h : u.isBlank = true) : u.isGap = true := by
  rw [CodeUnit.isGap, h, Bool.true_or]

theorem isGap_of_isControl (h : u.isControl = true) : u.isGap = true := by
  rw [CodeUnit.isGap, h, Bool.or_true]

theorem isGap_space : CodeUnit.isGap 0x20 = true := by decide

theorem words_append_cons (hu : u.isGap = true) (s t : Text) :
    words (s ++ u :: t) = words s ++ words t := by
  rw [words, List.splitOnP_append_cons s t hu, List.filter_append, ← words, ← words]

theorem words_nil : words [] = [] := by
  rw [words, List.splitOnP_nil]
  rfl

theorem words_cons (hu : u.isGap = true) (t : Text) : words (u :: t) = words t := by
  have h := words_append_cons hu [] t
  rwa [List.nil_append, words_nil, List.nil_append] at h

theorem words_eq_nil (h : ∀ u ∈ t, u.isGap = true) : words t = [] := by
  induction t with
  | nil => exact words_nil
  | cons u r ih =>
    obtain ⟨hu, hr⟩ := List.forall_mem_cons.mp h
    rw [words_cons hu, ih hr]

theorem words_eq_singleton (hne : t ≠ []) (h : ∀ u ∈ t, u.isGap = false) : words t = [t] := by
  rw [words, List.splitOnP_eq_singleton h]
  simp [hne]

theorem words_gaps_append (h : ∀ u ∈ s, u.isGap = true) (t : Text) : words (s ++ t) = words t := by
  induction s with
  | nil => rfl
  | cons u r ih =>
    obtain ⟨hu, hr⟩ := List.forall_mem_cons.mp h
    rw [List.cons_append, words_cons hu, ih hr]

theorem words_append_gaps (h : ∀ u ∈ t, u.isGap = true) (s : Text) : words (s ++ t) = words s := by
  cases t with
  | nil => rw [List.append_nil]
  | cons u r =>
    obtain ⟨hu, hr⟩ := List.forall_mem_cons.mp h
    rw [words_append_cons hu, words_eq_nil hr, List.append_nil]

end Words

section Courses
variable {t : Text} {ws : List Text}

theorem Runs.eq_words (h : Runs t ws) : ws = words t := by
  induction h with
  | nil => exact words_nil.symm
  | gap hu _ ih => rw [words_cons hu, ih]
  | @word w rest ws hne hw hend _ ih =>
    cases rest with
    | nil => rw [ih, words_nil, List.append_nil, words_eq_singleton hne hw]
    | cons u r =>
      have hu : u.isGap = true := hend u rfl
      rw [ih, words_append_cons hu, words_eq_singleton hne hw, words_cons hu]
      rfl

theorem runs_words (t : Text) : Runs t (words t) := by
  induction h : t.length using Nat.strong_induction_on generalizing t with
  | _ n ih =>
  cases t with
  | nil =>
    rw [words_nil]
    exact .nil
  | cons u r =>
    by_cases hu : u.isGap = true
    · rw [words_cons hu]
      exact .gap hu (ih r.length (by simp [← h]) r rfl)
    -- The first word is taken off, and what follows starts with a gap.
    · have hword : ∀ v ∈ u :: r.takeWhile (!·.isGap), v.isGap = false := by
        refine List.forall_mem_cons.mpr ⟨by simpa using hu, fun v hv => ?_⟩
        simpa using List.mem_takeWhile_imp hv
      have hend : ∀ v ∈ (r.dropWhile (!·.isGap)).head?, v.isGap = true := by
        intro v hv
        have hnot := List.head?_dropWhile_not (!·.isGap) r
        simpa [Option.mem_def.mp hv] using hnot
      have hlength : (r.dropWhile (!·.isGap)).length < n := by
        have hle := (List.dropWhile_suffix (l := r) (!·.isGap)).length_le
        rw [List.length_cons] at h
        omega
      have hrest := ih _ hlength (r.dropWhile (!·.isGap)) rfl
      have hruns := Runs.word (by simp) hword hend hrest
      rw [List.cons_append, List.takeWhile_append_dropWhile] at hruns
      exact hruns.eq_words ▸ hruns

theorem runs_iff : Runs t ws ↔ ws = words t :=
  ⟨Runs.eq_words, fun h => h ▸ runs_words t⟩

/-- The words are all that is left of a text without its gaps. -/
theorem Runs.flatten_eq (h : Runs t ws) : ws.flatten = t.filter (!·.isGap) := by
  induction h with
  | nil => rfl
  | gap hu _ ih => rw [ih, List.filter_cons_of_neg (by simp [hu])]
  | @word w rest ws _ hw _ _ ih =>
    have hself : w.filter (!·.isGap) = w :=
      List.filter_eq_self.mpr fun u hu => by simp [hw u hu]
    rw [List.flatten_cons, ih, List.filter_append, hself]

end Courses

section Squeezing
variable {p : CodeUnit → Bool}

/-- Squeezing a class of gaps keeps the words, whatever comes before. -/
theorem words_append_squeeze (hp : ∀ u, p u = true → u.isGap = true) (s t : Text) :
    words (s ++ squeeze p t) = words (s ++ t) := by
  induction t generalizing s with
  | nil => rfl
  | cons u r ih =>
    rw [squeeze]
    split_ifs with hu hr
    -- Another unit of the same run follows and parts the words as well.
    · cases r with
      | nil => exact absurd hr (by simp)
      | cons v r =>
        have hv : v.isGap = true := hp v (by simpa using hr)
        rw [ih, words_append_cons (hp u hu), words_append_cons hv, words_cons hv]
    · have hrest := ih []
      rw [List.nil_append, List.nil_append] at hrest
      rw [words_append_cons isGap_space, words_append_cons (hp u hu), hrest]
    · have hrest := ih (s ++ [u])
      rwa [List.append_assoc, List.append_assoc] at hrest

theorem words_squeeze (hp : ∀ u, p u = true → u.isGap = true) (t : Text) :
    words (squeeze p t) = words t :=
  words_append_squeeze hp [] t

theorem words_trim (t : Text) : words (trim t) = words t := by
  obtain ⟨before, after, hbefore, hafter, h⟩ := pads_trim t
  have hgaps : ∀ s : Text, IsBlank s → ∀ u ∈ s, u.isGap = true :=
    fun s hs u hu => isGap_of_isBlank (hs u hu)
  rw [congrArg words h, words_gaps_append (hgaps before hbefore),
    words_append_gaps (hgaps after hafter)]

theorem words_singleLine (t : Text) : words (singleLine t) = words t := by
  rw [singleLine, words_trim, words_squeeze fun _ => isGap_of_isBlank,
    words_squeeze fun _ => isGap_of_isControl]

theorem not_infix_squeeze (hp : p 0x20 = true) (t : Text) : ¬ [0x20, 0x20] <:+: squeeze p t := by
  induction t with
  | nil => exact fun h => absurd (List.infix_nil.mp h) (by simp)
  | cons u r ih =>
    rw [squeeze]
    split_ifs with hu hr
    · exact ih
    · rw [List.infix_cons_iff, not_or]
      refine ⟨?_, ih⟩
      cases r with
      | nil => simp [squeeze]
      | cons v r =>
        have hv : p v = false := by simpa using hr
        have hne : v ≠ 0x20 := by
          rintro rfl
          exact absurd hp (by simp [hv])
        simp [squeeze, hv, hne.symm]
    · rw [List.infix_cons_iff, not_or]
      refine ⟨?_, ih⟩
      have hne : u ≠ 0x20 := by
        rintro rfl
        exact hu hp
      simp [hne.symm]

end Squeezing

/-- Every gap is a single space, and none comes last. -/
structure HasSingleGaps (t : Text) : Prop where
  units : ∀ u ∈ t, u = 0x20 ∨ u.isGap = false
  single : ¬ [0x20, 0x20] <:+: t
  last : t.getLast? ≠ some 0x20

/-- Words with a space between each two of them and nothing around them. -/
structure IsSpaced (t : Text) : Prop extends HasSingleGaps t where
  first : t.head? ≠ some 0x20

section Spaced
variable {t : Text} {ws : List Text}

theorem HasSingleGaps.of_append {s : Text} (h : HasSingleGaps (s ++ t)) : HasSingleGaps t := by
  refine ⟨fun u hu => h.units u (List.mem_append_right s hu), ?_, ?_⟩
  · exact fun hpart => h.single (hpart.trans (List.suffix_append s t).isInfix)
  · intro hlast
    have hne : t ≠ [] := by
      rintro rfl
      exact absurd hlast (by simp)
    exact h.last ((List.getLast?_append_of_ne_nil s hne).trans hlast)

/-- Between its gaps a text is its words. A space in front is kept apart, since what follows a word
starts with one. -/
theorem Runs.eq_join (h : Runs t ws) (ht : HasSingleGaps t) :
    t = (if t.head? = some 0x20 then [0x20] else []) ++ join [0x20] ws := by
  -- Along the runs of the text. A gap is a single space, so a word or the end comes next.
  induction h with
  | nil => rfl
  | @gap u rest ws hu h ih =>
    have hspace : u = 0x20 := (ht.units u List.mem_cons_self).resolve_right (by simp [hu])
    subst hspace
    have hhead : rest.head? ≠ some 0x20 := by
      intro hhead
      obtain ⟨r, rfl⟩ := List.head?_eq_some_iff.mp hhead
      exact ht.single (List.prefix_append [0x20, 0x20] r).isInfix
    have hrest := ih (ht.of_append (s := [0x20]))
    rw [if_neg hhead, List.nil_append] at hrest
    rw [List.head?_cons, if_pos rfl, ← hrest]
    rfl
  | @word w rest ws hne hw hend h ih =>
    have hhead : (w ++ rest).head? ≠ some 0x20 := by
      rw [List.head?_append_of_ne_nil w hne]
      intro hhead
      exact absurd isGap_space (by simp [hw _ (List.mem_of_mem_head? hhead)])
    rw [if_neg hhead, List.nil_append]
    have hrest := ih ht.of_append
    cases rest with
    | nil =>
      rw [h.eq_words, words_nil, join, List.intercalate_singleton, List.append_nil]
    | cons u r =>
      have hu : u = 0x20 :=
        (ht.units u (by simp)).resolve_right (by simp [hend u rfl])
      subst hu
      rw [List.head?_cons, if_pos rfl] at hrest
      have hws : ws ≠ [] := by
        rintro rfl
        rw [hrest] at ht
        exact ht.last (by simp [join])
      rw [hrest, join, join, List.intercalate_cons_of_ne_nil hws, List.append_assoc]

theorem IsSpaced.eq_join_words (h : IsSpaced t) : t = join [0x20] (words t) := by
  have hjoin := (runs_words t).eq_join h.toHasSingleGaps
  rwa [if_neg h.first, List.nil_append] at hjoin

theorem isSpaced_singleLine (t : Text) : IsSpaced (singleLine t) := by
  have hspace : CodeUnit.isBlank 0x20 = true := by decide
  obtain ⟨before, after, -, -, hsqueezed⟩ :=
    pads_trim (squeeze CodeUnit.isBlank (squeeze CodeUnit.isControl t))
  have hpart : singleLine t <:+: squeeze CodeUnit.isBlank (squeeze CodeUnit.isControl t) :=
    ⟨before, after, (List.append_assoc _ _ _).trans hsqueezed.symm⟩
  have htrimmed : IsTrimmed (singleLine t) := isTrimmed_trim _
  refine ⟨⟨?_, ?_, ?_⟩, ?_⟩
  · intro u hu
    refine (mem_singleLine hu).imp_right fun ⟨hblank, hcontrol⟩ => ?_
    rw [CodeUnit.isGap, hblank, hcontrol]
    rfl
  · exact fun h => not_infix_squeeze hspace _ (h.trans hpart)
  · intro h
    exact absurd hspace (by simp [htrimmed.last _ h])
  · intro h
    exact absurd hspace (by simp [htrimmed.first _ h])

/-- A text is brought onto one line as its words with a space between each two of them. So there are
no gaps in it but single spaces inside, doing so again changes nothing, and what is no gap stays
there in its order. -/
theorem singleLine_eq_words (t : Text) :
    (∀ ws, Runs t ws ↔ ws = words t) ∧
    singleLine t = join [0x20] (words t) ∧
    IsSpaced (singleLine t) ∧
    singleLine (singleLine t) = singleLine t ∧
    (singleLine t).filter (!·.isGap) = t.filter (!·.isGap) := by
  have hjoin : ∀ t, singleLine t = join [0x20] (words t) := by
    intro t
    rw [← words_singleLine t]
    exact (isSpaced_singleLine t).eq_join_words
  refine ⟨fun _ => runs_iff, hjoin t, isSpaced_singleLine t, ?_, ?_⟩
  · rw [hjoin (singleLine t), words_singleLine, hjoin t]
  · rw [← (runs_words _).flatten_eq, words_singleLine, (runs_words t).flatten_eq]

/-- Runs of both kinds of gaps in turn, of which none but the inner ones leaves a space. -/
example : singleLine [0x00, 0xA0, 0x61, 0x09, 0x7F, 0x2028, 0x85, 0x62, 0x20, 0x01] =
    [0x61, 0x20, 0x85, 0x62] := by decide +kernel

end Spaced

end Text

end ZoneKeeper
