import Mathlib
import ZoneKeeper.Json
import ZoneKeeper.Proofs.Text.Digits

namespace ZoneKeeper

theorem index?_eq_some {key : Text} {n : ℕ} (h : index? key = some n) :
    Text.IsDecimal key ∧ Text.digitsValue key = n := by
  simp only [index?] at h
  split_ifs at h with hk
  simp only [Bool.and_eq_true, Bool.or_eq_true, decide_eq_true_eq, List.all_eq_true] at hk
  obtain ⟨⟨⟨hne, hd⟩, hlead⟩, -⟩ := hk
  exact ⟨⟨hne, hd, hlead⟩, Option.some.inj h⟩

theorem index?_injective {j k : Text} {n : ℕ} (hj : index? j = some n) (hk : index? k = some n) :
    j = k := by
  obtain ⟨hdj, hvj⟩ := index?_eq_some hj
  obtain ⟨hdk, hvk⟩ := index?_eq_some hk
  rw [← hdj.ofNat_digitsValue, ← hdk.ofNat_digitsValue, hvj, hvk]

theorem precedes_trans {a b c : Text} (hab : precedes a b = true) (hbc : precedes b c = true) :
    precedes a c = true := by
  unfold precedes at *
  cases ha : index? a <;> cases hb : index? b <;> cases hc : index? c <;>
    simp_all only [Bool.false_eq_true, decide_eq_true_eq]
  exact hab.trans hbc

theorem precedes_of_not {a b : Text} (hne : a ≠ b) (h : precedes a b = false) :
    precedes b a = true := by
  unfold precedes at *
  cases ha : index? a with
  | none =>
    cases hb : index? b with
    | none => simp [ha, hb] at h
    | some j => rfl
  | some i =>
    cases hb : index? b with
    | none => simp [ha, hb] at h
    | some j =>
      have hij : i ≠ j := by
        rintro rfl
        exact hne (index?_injective ha hb)
      simp only [ha, hb, decide_eq_false_iff_not] at h
      exact decide_eq_true (by omega)

namespace Members

def Before (a b : Text) : Prop := a ≠ b ∧ precedes a b = true

instance (a b : Text) : Decidable (Before a b) :=
  inferInstanceAs (Decidable (a ≠ b ∧ precedes a b = true))

/-- No key is repeated, and the members stand in property order. -/
def Ordered (members : Members) : Prop := members.Pairwise fun m n => Before m.1 n.1

instance (members : Members) : Decidable members.Ordered :=
  inferInstanceAs (Decidable (members.Pairwise fun m n => Before m.1 n.1))

theorem Before.trans {a b c : Text} (hab : Before a b) (hbc : Before b c) (hne : a ≠ c) :
    Before a c := ⟨hne, precedes_trans hab.2 hbc.2⟩

theorem get?_cons (k : Text) (v : Json) (rest : Members) (key : Text) :
    get? ((k, v) :: rest) key = if key = k then some v else get? rest key := by
  simp only [get?, List.lookup_cons]
  split <;> simp_all

theorem get?_eq_none_iff {members : Members} {key : Text} :
    members.get? key = none ↔ ∀ m ∈ members, m.1 ≠ key := by
  induction members with
  | nil => simp [get?]
  | cons m rest ih =>
    obtain ⟨k, v⟩ := m
    rw [get?_cons]
    split_ifs with h
    · simp [h]
    · simp [ih, Ne.symm h]

theorem mem_of_get? {members : Members} {key : Text} {v : Json} (h : members.get? key = some v) :
    (key, v) ∈ members := by
  induction members with
  | nil => simp [get?] at h
  | cons m rest ih =>
    obtain ⟨k, v'⟩ := m
    rw [get?_cons] at h
    split_ifs at h with hk
    · rw [hk, Option.some.inj h]
      exact List.mem_cons_self
    · exact List.mem_cons_of_mem _ (ih h)

theorem get?_insert (members : Members) (key : Text) (v : Json) (k : Text) :
    (members.insert key v).get? k = if k = key then some v else members.get? k := by
  induction members with
  | nil => rw [insert, get?_cons]
  | cons m rest ih =>
    obtain ⟨k', v'⟩ := m
    unfold insert
    split_ifs <;> simp only [get?_cons, ih] <;> split_ifs <;> simp_all

theorem filter_ne_insert (members : Members) (key : Text) (v : Json) :
    (members.insert key v).filter (·.1 ≠ key) = members.filter (·.1 ≠ key) := by
  induction members with
  | nil => simp [insert]
  | cons m rest ih =>
    obtain ⟨k', v'⟩ := m
    unfold insert
    split_ifs with hk hp
    · simp [hk]
    · simp only [List.filter_cons, ih]
    · simp [List.filter_cons]

theorem mem_insert {members : Members} {key : Text} {v : Json} {m : Text × Json}
    (h : m ∈ members.insert key v) : m = (key, v) ∨ m ∈ members := by
  induction members with
  | nil => exact Or.inl (List.mem_singleton.mp h)
  | cons m' rest ih =>
    obtain ⟨k', v'⟩ := m'
    unfold insert at h
    split_ifs at h with hk hp
    · rcases List.mem_cons.mp h with rfl | h
      · exact Or.inl (by rw [hk])
      · exact Or.inr (List.mem_cons_of_mem _ h)
    · rcases List.mem_cons.mp h with rfl | h
      · exact Or.inr List.mem_cons_self
      · exact (ih h).imp_right (List.mem_cons_of_mem _)
    · exact (List.mem_cons.mp h)

theorem Ordered.insert {members : Members} (h : members.Ordered) (key : Text) (v : Json) :
    (members.insert key v).Ordered := by
  induction members with
  | nil => exact List.pairwise_singleton _ _
  | cons m rest ih =>
    obtain ⟨k', v'⟩ := m
    obtain ⟨hhead, hrest⟩ := List.pairwise_cons.mp h
    unfold Members.insert
    split_ifs with hk hp
    · exact List.pairwise_cons.mpr ⟨hhead, hrest⟩
    · refine List.pairwise_cons.mpr ⟨?_, ih hrest⟩
      intro m hm
      rcases mem_insert hm with rfl | hm
      · exact ⟨hk, hp⟩
      · exact hhead m hm
    -- The new key comes before the first one here, and so before all behind it.
    · have hfirst : Before key k' :=
        ⟨Ne.symm hk, precedes_of_not hk (Bool.not_eq_true _ ▸ hp)⟩
      refine List.pairwise_cons.mpr ⟨?_, h⟩
      intro m hm
      rcases List.mem_cons.mp hm with rfl | hm
      · exact hfirst
      · have hbehind := hhead m hm
        refine hfirst.trans hbehind ?_
        rintro rfl
        exact hp hbehind.2

theorem insert_of_forall_before {members : Members} {key : Text} (v : Json)
    (h : ∀ m ∈ members, Before m.1 key) : members.insert key v = members ++ [(key, v)] := by
  induction members with
  | nil => rfl
  | cons m rest ih =>
    obtain ⟨k', v'⟩ := m
    obtain ⟨hne, hp⟩ := h (k', v') List.mem_cons_self
    rw [insert, if_neg hne, if_pos hp, ih fun m hm => h m (List.mem_cons_of_mem _ hm),
      List.cons_append]

theorem Ordered.filter_eq {members : Members} (h : members.Ordered) (key : Text) :
    members.filter (·.1 = key) = (members.get? key).toList.map fun v => (key, v) := by
  induction members with
  | nil => rfl
  | cons m rest ih =>
    obtain ⟨k', v'⟩ := m
    obtain ⟨hhead, hrest⟩ := List.pairwise_cons.mp h
    rw [get?_cons]
    split_ifs with hk
    · subst hk
      have hnone : rest.filter (·.1 = key) = [] := by
        rw [List.filter_eq_nil_iff]
        intro m hm
        simpa using (hhead m hm).1.symm
      simp [hnone]
    · rw [List.filter_cons_of_neg (by simpa using Ne.symm hk), ih hrest]

theorem Ordered.nodup_keys {members : Members} (h : members.Ordered) :
    (members.map Prod.fst).Nodup :=
  List.pairwise_map.mpr (h.imp fun hb => hb.1)

theorem mem_keys_iff {members : Members} {key : Text} :
    key ∈ members.map Prod.fst ↔ members.get? key ≠ none := by
  rw [Ne, get?_eq_none_iff]
  simp

theorem keys_insert_of_mem {members : Members} {key : Text} (v : Json) (hord : members.Ordered)
    (h : key ∈ members.map Prod.fst) :
    (members.insert key v).map Prod.fst = members.map Prod.fst := by
  induction members with
  | nil => exact absurd h List.not_mem_nil
  | cons m rest ih =>
    obtain ⟨k', v'⟩ := m
    obtain ⟨hhead, hrest⟩ := List.pairwise_cons.mp hord
    unfold insert
    split_ifs with hk hp
    · rfl
    · have hin : key ∈ rest.map Prod.fst := by simpa [Ne.symm hk] using h
      rw [List.map_cons, ih hrest hin, List.map_cons]
    -- The key is further on, so all in front of it precede it.
    · obtain ⟨m, hm, rfl⟩ : ∃ m ∈ rest, m.1 = key := by simpa [Ne.symm hk] using h
      exact absurd (hhead m hm).2 hp

/-- Members without repeated keys are told by their keys and by what is under each. -/
theorem eq_of_keys_of_get? {members members' : Members} (hnodup : (members.map Prod.fst).Nodup)
    (hkeys : members.map Prod.fst = members'.map Prod.fst)
    (hget : ∀ key, members.get? key = members'.get? key) : members = members' := by
  induction members generalizing members' with
  | nil => exact (List.map_eq_nil_iff.mp hkeys.symm).symm
  | cons m rest ih =>
    obtain ⟨k, v⟩ := m
    obtain ⟨hk, hnodup⟩ := List.nodup_cons.mp hnodup
    cases members' with
    | nil => exact absurd hkeys (by simp)
    | cons m' rest' =>
      obtain ⟨k', v'⟩ := m'
      simp only [List.map_cons, List.cons.injEq] at hkeys
      obtain ⟨rfl, hkeys⟩ := hkeys
      have hv : v = v' := by simpa [get?_cons] using hget k
      have hrest : ∀ key, get? rest key = get? rest' key := by
        intro key
        by_cases hkey : key = k
        -- Under the first key there is nothing in either rest.
        · subst hkey
          have hk' : key ∉ rest'.map Prod.fst := hkeys ▸ hk
          rw [mem_keys_iff, not_not] at hk hk'
          rw [hk, hk']
        · simpa [get?_cons, hkey] using hget key
      rw [hv, ih hnodup hkeys hrest]

/-- Members set one after the other in property order are all there in that order. -/
theorem Ordered.foldl_insert {members : Members} (h : members.Ordered) :
    members.foldl (fun (object : Members) m => object.insert m.1 m.2) [] = members := by
  induction members using List.reverseRecOn with
  | nil => rfl
  | append_singleton front m ih =>
    obtain ⟨hfront, -, hlast⟩ := List.pairwise_append.mp h
    have hbefore : ∀ n ∈ front, Before n.1 m.1 :=
      fun n hn => hlast n hn m (List.mem_singleton_self m)
    rw [List.foldl_append, ih hfront, List.foldl_cons, List.foldl_nil,
      insert_of_forall_before m.2 hbefore]

theorem Ordered.find?_eq_some {members : Members} (h : members.Ordered) {key : Text} {v : Json}
    (hm : (key, v) ∈ members) : members.find? (fun m => decide (m.1 = key)) = some (key, v) := by
  cases hf : members.find? fun m => decide (m.1 = key) with
  | none => exact absurd (List.find?_eq_none.mp hf (key, v) hm) (by simp)
  | some m =>
    have he : m.1 = key := by simpa using List.find?_some hf
    rw [List.inj_on_of_nodup_map h.nodup_keys (List.mem_of_find?_eq_some hf) hm he]

end Members

end ZoneKeeper
