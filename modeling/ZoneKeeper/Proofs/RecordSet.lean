import Mathlib
import ZoneKeeper.Proofs.Json.Members
import ZoneKeeper.RecordSet

namespace ZoneKeeper

/-- Objects that are written to in place, by number. -/
abbrev Store := List Members

namespace Store

def set (store : Store) (object : ℕ) (key : Text) (v : Json) : Store :=
  store.modify object fun members => members.insert key v

def setAll (store : Store) (object : ℕ) (members : Members) : Store :=
  members.foldl (fun store m => set store object m.1 m.2) store

theorem set_newest (store : Store) (members : Members) (key : Text) (v : Json) :
    set (store ++ [members]) store.length key v = store ++ [members.insert key v] := by
  simp [set, List.modify_eq_set_getElem?]

theorem setAll_newest (store : Store) (members added : Members) :
    setAll (store ++ [members]) store.length added =
      store ++ [added.foldl (fun (object : Members) m => object.insert m.1 m.2) members] := by
  induction added generalizing members with
  | nil => rfl
  | cons m rest ih =>
    rw [setAll, List.foldl_cons, set_newest, ← setAll, ih, List.foldl_cons]

end Store

namespace RecordSet

/-- Makes a new object, gives it the members of another one, and sets the address records in it. -/
def makeWithAddress (store : Store) (source : ℕ) (priority : Double) (ip : Text) : Store :=
  let made := Store.setAll (store ++ [[]]) store.length (store.getD source [])
  Store.set made store.length "A" (addressRecords priority ip)

/-- The store as it was, with the new record set behind it. -/
theorem makeWithAddress_eq {store : Store} {source : ℕ} {records : Members}
    (hsource : store[source]? = some records) (h : records.Ordered) (priority : Double)
    (ip : Text) :
    makeWithAddress store source priority ip = store ++ [withAddress records priority ip] := by
  have hrecords : store.getD source [] = records := by
    rw [List.getD_eq_getElem?_getD, hsource, Option.getD_some]
  simp only [makeWithAddress, hrecords, Store.setAll_newest, h.foldl_insert, Store.set_newest]
  rfl

section Algebra
variable {records : Members} (h : records.Ordered) (p : Double) (ip : Text)

theorem withAddress_of_not_mem (hnone : Text.ofString "A" ∉ records.map Prod.fst) :
    withAddress records p ip = records ++ [(Text.ofString "A", addressRecords p ip)] := by
  have hindex : index? "A" = none := by decide +kernel
  refine Members.insert_of_forall_before _ fun m hm => ⟨?_, ?_⟩
  · rintro hkey
    exact hnone (hkey ▸ List.mem_map_of_mem hm)
  -- What is no index comes last.
  · rw [precedes, hindex]
    split
    · next heq => exact absurd heq (by simp)
    · next heq => exact absurd heq (by simp)
    · rfl

theorem get?_withAddress (key : Text) :
    (withAddress records p ip).get? key =
      if key = Text.ofString "A" then some (addressRecords p ip) else records.get? key :=
  Members.get?_insert records "A" _ key

include h

theorem keys_withAddress :
    (withAddress records p ip).map Prod.fst =
      if Text.ofString "A" ∈ records.map Prod.fst then records.map Prod.fst
      else records.map Prod.fst ++ [Text.ofString "A"] := by
  split_ifs with hmem
  · exact Members.keys_insert_of_mem _ h hmem
  · rw [withAddress_of_not_mem p ip hmem, List.map_append]
    rfl

theorem withAddress_congr {records' : Members} (h' : records'.Ordered)
    (hkeys : records'.map Prod.fst = records.map Prod.fst)
    (hget : ∀ key, key ≠ Text.ofString "A" → records'.get? key = records.get? key) :
    withAddress records' p ip = withAddress records p ip := by
  refine Members.eq_of_keys_of_get? (h'.insert _ _).nodup_keys ?_ fun key => ?_
  · rw [keys_withAddress h', keys_withAddress h, hkeys]
  · rw [get?_withAddress, get?_withAddress]
    split_ifs with hkey
    · rfl
    · exact hget key hkey

theorem withAddress_withAddress (q : Double) (j : Text) :
    withAddress (withAddress records p ip) q j = withAddress records q j := by
  have hw : (withAddress records p ip).Ordered := h.insert _ _
  refine Members.eq_of_keys_of_get? (hw.insert _ _).nodup_keys ?_ fun key => ?_
  · have hmem : Text.ofString "A" ∈ (withAddress records p ip).map Prod.fst := by
      rw [Members.mem_keys_iff, get?_withAddress, if_pos rfl]
      simp
    rw [keys_withAddress hw, if_pos hmem, keys_withAddress h, keys_withAddress h]
  · simp only [get?_withAddress]
    split_ifs with hkey
    · rfl
    · rfl

end Algebra

/-- What a write of the address records does to a record set. The keys are those of the set in their
places, with `A` added at the end if it was not there; what is under every other key is as it was,
and property order holds. The set that was read stays what it was beside the new one. A later write
absorbs an earlier one, and what was under `A` before makes no difference. -/
theorem withAddress_algebra {records : Members} (h : records.Ordered) (p : Double) (ip : Text) :
    let written := withAddress records p ip
    (written.map Prod.fst =
      if Text.ofString "A" ∈ records.map Prod.fst then records.map Prod.fst
      else records.map Prod.fst ++ [Text.ofString "A"]) ∧
    (∀ key, written.get? key =
      if key = Text.ofString "A" then some (addressRecords p ip) else records.get? key) ∧
    written.Ordered ∧
    (∀ (store : Store) (source : ℕ), store[source]? = some records →
      makeWithAddress store source p ip = store ++ [written]) ∧
    (∀ q j, withAddress written q j = withAddress records q j) ∧
    ∀ records' : Members, records'.Ordered → records'.map Prod.fst = records.map Prod.fst →
      (∀ key, key ≠ Text.ofString "A" → records'.get? key = records.get? key) →
      withAddress records' p ip = written := by
  intro written
  refine ⟨keys_withAddress h p ip, get?_withAddress p ip, h.insert _ _, ?_, ?_, ?_⟩
  · intro store source hsource
    exact makeWithAddress_eq hsource h p ip
  · exact withAddress_withAddress h p ip
  · intro records' h' hkeys hget
    exact withAddress_congr h p ip h' hkeys hget

/-- Index keys, a key that objects inherit elsewhere, and address records in the middle. -/
theorem withAddress_algebra_index_keys :
    let records : Members := [("2", .null), ("10", .number "1.0"), ("__proto__", .array []),
      ("A", .array [.string "192.0.2.1"]), ("a", .bool true)]
    let records' : Members := [("2", .null), ("10", .number "1.0"), ("__proto__", .array []),
      ("A", .null), ("a", .bool true)]
    let p : Double := .ofNat 10
    let ip : Text := "192.0.2.7"
    let written := withAddress records p ip
    records.Ordered ∧ records'.Ordered ∧
    (written.map Prod.fst =
      if Text.ofString "A" ∈ records.map Prod.fst then records.map Prod.fst
      else records.map Prod.fst ++ [Text.ofString "A"]) ∧
    (∀ key, written.get? key =
      if key = Text.ofString "A" then some (addressRecords p ip) else records.get? key) ∧
    written.Ordered ∧
    makeWithAddress [records', records] 1 p ip = [records', records, written] ∧
    (∀ q j, withAddress written q j = withAddress records q j) ∧
    withAddress records' p ip = written := by
  intro records records' p ip written
  have h : records.Ordered := by decide +kernel
  have h' : records'.Ordered := by decide +kernel
  obtain ⟨hkeys, hget, hord, hmake, habsorb, hcongr⟩ := withAddress_algebra h p ip
  refine ⟨h, h', hkeys, hget, hord, hmake [records', records] 1 rfl, habsorb, ?_⟩
  refine hcongr records' h' rfl fun key hkey => ?_
  simp [records, records', Members.get?_cons, hkey]

end RecordSet

end ZoneKeeper
