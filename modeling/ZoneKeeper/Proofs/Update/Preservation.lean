import Mathlib
import ZoneKeeper.Proofs.Double.Shortest
import ZoneKeeper.Proofs.Settings
import ZoneKeeper.Proofs.Update.Gate

namespace ZoneKeeper

namespace RecordSet

def addressRecord (priority : Double) (a : Ipv4) : Text × Json :=
  ("A", .array [.object [("priority", .number priority.toText), ("value", .string a.toText)]])

def others (records : Members) : Members := records.filter (·.1 ≠ "A")

def addresses (records : Members) : Members := records.filter (·.1 = "A")

theorem canonical_addressRecords (priority : Double) (ip : Text) :
    Json.Canonical (addressRecords priority ip) := by
  have hpair : Members.Canonical [("priority", Json.ofDouble priority), ("value", .string ip)] :=
    Members.canonical_pair _ _ (by decide +kernel) (Json.canonical_ofDouble priority) (.string ip)
  refine .array fun v hv => ?_
  rw [List.mem_singleton.mp hv]
  exact Json.canonical_object_iff.mpr hpair

theorem others_withAddress (records : Members) (priority : Double) (ip : Text) :
    others (withAddress records priority ip) = others records :=
  Members.filter_ne_insert records "A" _

theorem addresses_withAddress {records : Members} (h : records.Canonical) {priority : Double}
    (hwhole : priority.isWhole = true) (a : Ipv4) :
    addresses (withAddress records priority a.toText) = [addressRecord priority a] := by
  have hins := h.insert "A" (canonical_addressRecords priority a.toText)
  rw [addresses, withAddress, hins.ordered.filter_eq, Members.get?_insert, if_pos rfl,
    addressRecords, Json.ofDouble_of_isWhole hwhole]
  rfl

end RecordSet

namespace Update
open Envelope RecordSet

section Change
variable {s : Settings} {records : Members}

theorem canonical_change (h : records.Canonical) (ip : Text) :
    Json.Canonical (change s records ip) := by
  have hset : Json.Canonical (.object (withAddress records s.priority ip)) :=
    Json.canonical_object_iff.mpr (h.insert _ (canonical_addressRecords s.priority ip))
  exact Json.canonical_object_iff.mpr
    (Members.canonical_pair _ _ (by decide +kernel) (.string s.target) hset)

/-- The text of the address of the second call spells what is written. -/
theorem payload?_writeCall (h : records.Canonical) (ip : Text) (signalled : Bool) :
    payload? (writeCall s records ip signalled).url.toText = some (change s records ip) :=
  payload?_call (canonical_change h ip)

end Change

/-- An update that writes puts back all that it read. What the address of its second call spells is
the target with the record set that was read, in which one address record stands for all there
were. -/
theorem records_preserved {blob : Settings.Blob} {domain owner : Text} {s : Settings}
    (hs : Settings.ofBlob blob domain owner = .ok s) (a : Ipv4) (script : Script)
    {records : Members} (hg : Gives (Clears s.target records) (script.reply 0)) :
    ∃ read write written,
      (runReconcile s a.toText script).requests = [read, write] ∧
      endpoint? write.url.toText = some .changeRecords ∧
      payload? write.url.toText =
        some (.object [("fqdn", .string s.target), ("records", .object written)]) ∧
      others written = others records ∧
      addresses written = [addressRecord s.priority a] := by
  have hc : records.Canonical := hg.canonical
  refine ⟨_, _, withAddress records s.priority a.toText, requests_of_clears s a.toText hg,
    ?_, ?_, ?_, ?_⟩
  · exact endpoint?_call _ _ _ _
  · exact payload?_writeCall hc _ _
  · exact others_withAddress _ _ _
  · exact addresses_withAddress hc (Settings.isWhole_priority hs) a

/-- A record set with a text record and two address records is written back with one. -/
theorem records_preserved_two_addresses :
    let blob : Settings.Blob := .value (.object [("login", .string "me"),
      ("password", .string "pw"), ("domain", .string "www.example.com"),
      ("priority", .number "10")])
    let address (ip : Text) : Json := .object [("value", .string ip)]
    let records : Members := [("TXT", .array [.string "kept"]),
      ("A", .array [address "192.0.2.1", address "192.0.2.2"])]
    let body := (toJson zoneJson (cleared "www.example.com" records)).write
    let script : Script := ⟨[⟨none, .body Status.ok body⟩], .none⟩
    let a : Ipv4 := ⟨192, 0, 2, 7⟩
    ∃ s read write written,
      Settings.ofBlob blob "example.com" "www" = .ok s ∧
      Gives (Clears s.target records) (script.reply 0) ∧
      (runReconcile s a.toText script).requests = [read, write] ∧
      endpoint? write.url.toText = some .changeRecords ∧
      payload? write.url.toText =
        some (.object [("fqdn", .string s.target), ("records", .object written)]) ∧
      others written = others records ∧
      addresses written = [addressRecord s.priority a] := by
  intro blob address records body script a
  have haddress : ∀ ip, Json.Canonical (address ip) := fun ip =>
    Json.canonical_object_iff.mpr (Members.canonical_singleton "value" (.string ip))
  have hrecords : records.Canonical :=
    Members.canonical_pair _ _ (by decide +kernel) (.array (by simpa using .string _))
      (.array (by simpa using ⟨haddress _, haddress _⟩))
  obtain ⟨s, hs, ht⟩ : ∃ s, Settings.ofBlob blob "example.com" "www" = .ok s ∧
      s.target = "www.example.com" := Settings.exists_of_target (by decide +kernel)
  have hg : Gives (Clears s.target records) (script.reply 0) := by
    rw [ht]
    exact ⟨body, rfl, spells_cleared hrecords⟩
  obtain ⟨read, write, written, h⟩ := records_preserved hs a script hg
  exact ⟨s, read, write, written, hs, hg, h⟩

end Update

end ZoneKeeper
