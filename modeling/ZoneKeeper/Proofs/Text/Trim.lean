import Mathlib
import ZoneKeeper.Text.SingleLine

namespace ZoneKeeper.Text

def IsBlank (t : Text) : Prop := ∀ u ∈ t, u.isBlank = true

instance (t : Text) : Decidable t.IsBlank :=
  decidable_of_iff (t.all CodeUnit.isBlank = true) (by simp [IsBlank])

/-- The second text is the first one with nothing but blanks around it. -/
def Pads (s t : Text) : Prop :=
  ∃ before after, IsBlank before ∧ IsBlank after ∧ t = before ++ (s ++ after)

/-- A text without blanks at its ends. -/
structure IsTrimmed (t : Text) : Prop where
  first : ∀ u ∈ t.head?, u.isBlank = false
  last : ∀ u ∈ t.getLast?, u.isBlank = false

theorem isBlank_reverse {t : Text} : IsBlank t.reverse ↔ IsBlank t := by
  simp only [IsBlank, List.mem_reverse]

theorem exists_trimStart (t : Text) : ∃ before, IsBlank before ∧ t = before ++ trimStart t :=
  ⟨t.takeWhile CodeUnit.isBlank, fun _ => List.mem_takeWhile_imp,
    List.takeWhile_append_dropWhile.symm⟩

theorem exists_trimEnd (t : Text) : ∃ after, IsBlank after ∧ t = trimEnd t ++ after := by
  obtain ⟨before, hblank, h⟩ := exists_trimStart t.reverse
  refine ⟨before.reverse, isBlank_reverse.mpr hblank, ?_⟩
  rw [trimEnd, ← List.reverse_append, ← h, List.reverse_reverse]

theorem isBlank_head?_trimStart (t : Text) : ∀ u ∈ (trimStart t).head?, u.isBlank = false := by
  intro u hu
  have hnot := List.head?_dropWhile_not CodeUnit.isBlank t
  rw [trimStart] at hu
  rwa [Option.mem_def.mp hu] at hnot

theorem trimStart_append {before t : Text} (hblank : IsBlank before)
    (h : ∀ u ∈ t.head?, u.isBlank = false) : trimStart (before ++ t) = t := by
  rw [trimStart, List.dropWhile_append_of_pos hblank]
  cases t with
  | nil => rfl
  | cons u r => exact List.dropWhile_cons_of_neg (by simp [h u rfl])

theorem trimEnd_append {t after : Text} (hblank : IsBlank after)
    (h : ∀ u ∈ t.getLast?, u.isBlank = false) : trimEnd (t ++ after) = t := by
  rw [← List.head?_reverse] at h
  rw [trimEnd, List.reverse_append, trimStart_append (isBlank_reverse.mpr hblank) h,
    List.reverse_reverse]

theorem isTrimmed_trim (t : Text) : IsTrimmed (trim t) := by
  obtain ⟨after, -, h⟩ := exists_trimEnd (trimStart t)
  refine ⟨?_, ?_⟩
  -- What is taken from the end leaves the front as it is, unless nothing is left.
  · intro u hu
    apply isBlank_head?_trimStart t u
    rw [h, List.head?_append]
    exact Option.or_eq_some_iff.mpr (Or.inl hu)
  · rw [trim, trimEnd, List.getLast?_reverse]
    exact isBlank_head?_trimStart _

theorem pads_trim (t : Text) : Pads (trim t) t := by
  obtain ⟨before, hbefore, h⟩ := exists_trimStart t
  obtain ⟨after, hafter, h'⟩ := exists_trimEnd (trimStart t)
  exact ⟨before, after, hbefore, hafter, h.trans (congrArg (before ++ ·) h')⟩

theorem trim_subset (t : Text) : trim t ⊆ t := by
  obtain ⟨before, after, -, -, h⟩ := pads_trim t
  intro u hu
  rw [h]
  exact List.mem_append_right before (List.mem_append_left after hu)

theorem mem_trim_of_mem {t : Text} {u : CodeUnit} (hu : u ∈ t) (h : u.isBlank = false) :
    u ∈ trim t := by
  obtain ⟨before, after, hbefore, hafter, ht⟩ := pads_trim t
  have hblank : ∀ s : Text, IsBlank s → u ∉ s := fun s hs hus => by simp [hs u hus] at h
  rw [ht, List.mem_append, List.mem_append] at hu
  exact (hu.resolve_left (hblank before hbefore)).resolve_right (hblank after hafter)

theorem Pads.trim_eq {s t : Text} (hpads : Pads s t) (h : IsTrimmed s) : trim t = s := by
  obtain ⟨before, after, hbefore, hafter, rfl⟩ := hpads
  cases s with
  | nil =>
    have hall : IsBlank (before ++ after) := List.forall_mem_append.mpr ⟨hbefore, hafter⟩
    have hnone : trimStart (before ++ after) = [] := List.dropWhile_eq_nil_iff.mpr hall
    rw [List.nil_append, trim, hnone]
    rfl
  | cons u r =>
    have hfirst : ∀ v ∈ (u :: r ++ after).head?, v.isBlank = false := h.first
    rw [trim, trimStart_append hbefore hfirst, trimEnd_append hafter h.last]

theorem trim_eq_iff {t s : Text} : trim t = s ↔ Pads s t ∧ IsTrimmed s := by
  constructor
  · rintro rfl
    exact ⟨pads_trim t, isTrimmed_trim t⟩
  · intro h
    exact h.1.trim_eq h.2

end ZoneKeeper.Text
