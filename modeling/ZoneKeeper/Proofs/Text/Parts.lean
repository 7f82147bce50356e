import Mathlib
import ZoneKeeper.Text

namespace ZoneKeeper.Text

theorem ne_of_mem {mark : CodeUnit} {s : Text} (h : mark ∉ s) :
    ∀ u ∈ s, decide (u ≠ mark) = true := by
  intro u hu
  exact decide_eq_true (ne_of_mem_of_not_mem hu h)

theorem cut_append {mark : CodeUnit} {s : Text} (h : mark ∉ s) (t : Text) :
    cut mark (s ++ mark :: t) = (s, some t) := by
  have hs := ne_of_mem h
  rw [cut, List.dropWhile_append_of_pos hs, List.takeWhile_append_of_pos hs,
    List.dropWhile_cons_of_neg (by simp), List.takeWhile_cons_of_neg (by simp), List.append_nil]

theorem cut_of_not_mem {mark : CodeUnit} {s : Text} (h : mark ∉ s) : cut mark s = (s, none) := by
  rw [cut, List.dropWhile_eq_nil_iff.mpr (ne_of_mem h)]

theorem mem_join {u : CodeUnit} {sep : Text} {items : List Text} (h : u ∈ join sep items) :
    u ∈ sep ∨ ∃ t ∈ items, u ∈ t := by
  induction items with
  | nil => exact absurd h List.not_mem_nil
  | cons t rest ih =>
    by_cases hr : rest = []
    · subst hr
      rw [join, List.intercalate_singleton] at h
      exact Or.inr ⟨t, by simp, h⟩
    · rw [join, List.intercalate_cons_of_ne_nil hr, List.mem_append, List.mem_append] at h
      rcases h with (h | h) | h
      · exact Or.inr ⟨t, by simp, h⟩
      · exact Or.inl h
      · exact (ih h).imp_right fun ⟨x, hx, hu⟩ => ⟨x, by simp [hx], hu⟩

theorem mem_join_of_mem {u : CodeUnit} {sep t : Text} {items : List Text} (ht : t ∈ items)
    (hu : u ∈ t) : u ∈ join sep items := by
  induction items with
  | nil => exact absurd ht List.not_mem_nil
  | cons s rest ih =>
    by_cases hr : rest = []
    · subst hr
      rw [join, List.intercalate_singleton]
      exact List.mem_singleton.mp ht ▸ hu
    · rw [join, List.intercalate_cons_of_ne_nil hr, List.mem_append]
      rcases List.mem_cons.mp ht with rfl | ht
      · exact Or.inl (List.mem_append_left sep hu)
      · exact Or.inr (ih ht)

theorem join_concat {sep t : Text} {items : List Text} (h : items ≠ []) :
    join sep (items ++ [t]) = join sep items ++ sep ++ t := by
  induction items with
  | nil => exact absurd rfl h
  | cons s rest ih =>
    by_cases hr : rest = []
    · subst hr
      simp [join, List.intercalate_cons_of_ne_nil]
    · rw [List.cons_append, join, List.intercalate_cons_of_ne_nil (by simp), ← join, ih hr, join,
        join, List.intercalate_cons_of_ne_nil hr]
      simp only [List.append_assoc]

theorem mem_of_mem_splitOn {mark u : CodeUnit} {s t : Text} (hs : s ∈ t.splitOn mark)
    (hu : u ∈ s) : u ∈ t := by
  have hjoin : join [mark] (t.splitOn mark) = t := List.intercalate_splitOn mark
  rw [← hjoin]
  exact mem_join_of_mem hs hu

end ZoneKeeper.Text
