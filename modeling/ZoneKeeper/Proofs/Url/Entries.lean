import Mathlib
import ZoneKeeper.Proofs.Text.Characters
import ZoneKeeper.Url.Form

namespace ZoneKeeper

theorem Text.le_iff (s t : Text) : Text.le s t = true ↔ s ≤ t := by
  induction s generalizing t with
  | nil => simp [Text.le]
  | cons u s ih =>
    cases t with
    | nil => simp [Text.le]
    | cons v t => simp [Text.le, List.cons_le_cons_iff, ih]

namespace Form

def Precedes (e f : Text × Text) : Prop := e.1 ≤ f.1

instance : DecidableRel Precedes := fun e f => inferInstanceAs (Decidable (e.1 ≤ f.1))

instance : Std.Total Precedes := ⟨fun e f => List.le_total e.1 f.1⟩

instance : IsTrans (Text × Text) Precedes := ⟨fun _ _ _ h h' => List.le_trans h h'⟩

theorem insertSorted_eq (e : Text × Text) (entries : Entries) :
    insertSorted e entries = entries.orderedInsert Precedes e := by
  induction entries with
  | nil => rfl
  | cons x rest ih =>
    rw [insertSorted, List.orderedInsert_cons, ih]
    exact if_congr (Text.le_iff e.1 x.1) rfl rfl

theorem sort_eq (entries : Entries) : sort entries = entries.insertionSort Precedes := by
  induction entries with
  | nil => rfl
  | cons e rest ih =>
    rw [List.insertionSort_cons, ← ih, ← insertSorted_eq]
    rfl

theorem sort_perm (entries : Entries) : (sort entries).Perm entries := by
  rw [sort_eq]
  exact List.perm_insertionSort Precedes entries

def names (entries : Entries) : List Text := entries.map Prod.fst

section Distinct
variable {entries : Entries}

theorem sort_ascending (h : (names entries).Nodup) :
    (sort entries).Pairwise fun e f => e.1 < f.1 := by
  have hsorted : (sort entries).Pairwise Precedes := by
    rw [sort_eq]
    exact List.pairwise_insertionSort Precedes entries
  have hne : (sort entries).Pairwise fun e f => e.1 ≠ f.1 :=
    List.pairwise_map.mp (((sort_perm entries).map Prod.fst).nodup_iff.mpr h)
  refine (hsorted.and hne).imp fun ⟨hle, hne⟩ => ?_
  exact (List.le_iff_lt_or_eq.mp hle).resolve_right hne

/-- Entries of different names have one order only. -/
theorem sort_eq_of_perm {others : Entries} (hp : others.Perm entries)
    (h : (names entries).Nodup) : sort others = sort entries := by
  have hothers : (names others).Nodup := (hp.map Prod.fst).nodup_iff.mpr h
  have hperm : (sort others).Perm (sort entries) :=
    ((sort_perm others).trans hp).trans (sort_perm entries).symm
  refine hperm.eq_of_pairwise (fun e f _ _ he hf => ?_) (sort_ascending hothers)
    (sort_ascending h)
  exact absurd hf (List.lt_asymm he)

theorem put_of_not_mem {name : Text} (h : name ∉ names entries) (value : Text) :
    put entries name value = entries ++ [(name, value)] := by
  induction entries with
  | nil => rfl
  | cons e rest ih =>
    obtain ⟨n, v⟩ := e
    rw [names, List.map_cons, List.mem_cons, not_or] at h
    rw [put, if_neg (Ne.symm h.1), ih h.2, List.cons_append]

def Spelled (entries : Entries) : Prop := ∀ e ∈ entries, Text.Spelled e.1 ∧ Text.Spelled e.2

/-- Entries of different names are taken as they are. -/
theorem ofPairs_eq (h : (names entries).Nodup) (hs : Spelled entries) :
    ofPairs entries = entries := by
  -- The entries that are put so far have none of the names that are still to come.
  have hput : ∀ (rest before : Entries), (names (before ++ rest)).Nodup → Spelled rest →
      rest.foldl (fun entries e => put entries (Text.repair e.1) (Text.repair e.2)) before =
        before ++ rest := by
    intro rest
    induction rest with
    | nil =>
      intro before _ _
      rw [List.foldl_nil, List.append_nil]
    | cons e rest ih =>
      intro before hnodup hspelled
      obtain ⟨⟨hn, hv⟩, hrest⟩ := List.forall_mem_cons.mp hspelled
      have hfresh : e.1 ∉ names before := by
        intro hmem
        rw [names, List.map_append, List.nodup_append'] at hnodup
        exact hnodup.2.2 hmem (by simp)
      rw [List.foldl_cons, hn.repair_eq, hv.repair_eq, put_of_not_mem hfresh,
        ih _ (by simpa using hnodup) hrest]
      simp
  exact hput entries [] h hs

end Distinct

end Form

end ZoneKeeper
