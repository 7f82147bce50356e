import Mathlib
import ZoneKeeper.Proofs.Double.Integer
import ZoneKeeper.Proofs.Settings.Acceptance
import ZoneKeeper.Proofs.Update.Outcome
import ZoneKeeper.Proofs.Update.Preservation

namespace ZoneKeeper

namespace Settings

def Blob.prioritySource? (blob : Blob) : Option Text :=
  match blob.contents with
  | some (some (.object members)) =>
    match Members.get? members "priority" with
    | some (.number source) => some source
    | _ => none
  | _ => none

theorem ofDecimal?_priority {blob : Blob} {domain owner : Text} {s : Settings} {source : Text}
    (hs : ofBlob blob domain owner = .ok s) (hp : blob.prioritySource? = some source) :
    Double.ofDecimal? source = some s.priority := by
  obtain ⟨members, hv, hd, -⟩ := (ofBlob_eq_ok_iff blob domain owner).mp hs
  have hpriority := hd.priority
  simp only [Blob.prioritySource?, hv] at hp
  split at hp
  · next source' hget =>
    obtain rfl := Option.some.inj hp
    rw [hget] at hpriority
    cases hpriority with
    | number h _ => exact h
  · exact absurd hp (by simp)

end Settings

namespace Update
open Envelope RecordSet
open Double (IsLiteral Denotes Shortest ofInt)

section Write
variable {s : Settings} {ip : Text} {script : Script} {write : Request}

/-- An update that writes was given an address, and writes over the records that it read. -/
theorem exists_of_write (hw : write ∈ (runUpdate s ip script).requests)
    (hc : write.endpoint = .changeRecords) :
    ∃ (a : Ipv4) (records : Members), ip.trim = a.toText ∧
      Gives (Clears s.target records) (script.reply 0) ∧
      write = writeCall s records a.toText script.signal.isGiven := by
  by_cases hip : ∃ a : Ipv4, ip.trim = a.toText
  · obtain ⟨a, ha⟩ := hip
    rw [run_update_of_address s ip script ha] at hw
    by_cases hg : ∃ records, Gives (Clears s.target records) (script.reply 0)
    · obtain ⟨records, hg⟩ := hg
      rw [requests_of_clears s a.toText hg, List.mem_pair] at hw
      rcases hw with rfl | rfl
      · exact Endpoint.noConfusion hc
      · exact ⟨a, records, ha, hg, rfl⟩
    · rw [requests_of_not_clears s a.toText hg, List.mem_singleton] at hw
      subst hw
      exact Endpoint.noConfusion hc
  · rw [run_update_of_no_address s ip script (not_exists.mp hip)] at hw
    exact absurd hw List.not_mem_nil

theorem writeCall_mem {a : Ipv4} {records : Members} (ha : ip.trim = a.toText)
    (hg : Gives (Clears s.target records) (script.reply 0)) :
    writeCall s records a.toText script.signal.isGiven ∈ (runUpdate s ip script).requests := by
  rw [run_update_of_address s ip script ha, requests_of_clears s a.toText hg]
  simp

/-- The payload of an update that writes has the priority of the settings in its only address
record. -/
theorem payload?_of_write {blob : Settings.Blob} {domain owner : Text}
    (hs : Settings.ofBlob blob domain owner = .ok s)
    (hw : write ∈ (runUpdate s ip script).requests) (hc : write.endpoint = .changeRecords) :
    ∃ a written, ip.trim = Ipv4.toText a ∧
      payload? write.url.toText =
        some (.object [("fqdn", .string s.target), ("records", .object written)]) ∧
      addresses written = [addressRecord s.priority a] := by
  obtain ⟨a, records, ha, hg, rfl⟩ := exists_of_write hw hc
  exact ⟨a, withAddress records s.priority a.toText, ha, payload?_writeCall hg.canonical _ _,
    addresses_withAddress hg.canonical (Settings.isWhole_priority hs) a⟩

/-- An integer that is given as priority is what every update that writes puts into its address
record, if and only if it is the shortest of the integers that are read as the same double. Any
other gives way to that shortest one. Below `2 ^ 53` all integers stay what they are. -/
theorem priority_unchanged_iff {blob : Settings.Blob} {domain owner source : Text} {n : ℤ}
    (hs : Settings.ofBlob blob domain owner = .ok s) (hp : blob.prioritySource? = some source)
    (hn : IsLiteral n source) (hw : write ∈ (runUpdate s ip script).requests)
    (hc : write.endpoint = .changeRecords) :
    ∃ a written priority, ip.trim = Ipv4.toText a ∧
      payload? write.url.toText =
        some (.object [("fqdn", .string s.target), ("records", .object written)]) ∧
      addresses written = [(Text.ofString "A",
        .array [.object [("priority", .number priority), ("value", .string a.toText)]])] ∧
      (Denotes priority n ↔ Shortest n) ∧
      (n.natAbs < 2 ^ 53 → Denotes priority n) ∧
      ∃ p : ℤ, Denotes priority p ∧ ofInt p = ofInt n ∧ Shortest p := by
  obtain ⟨a, written, ha, hpayload, haddresses⟩ := payload?_of_write hs hw hc
  have hread := Settings.ofDecimal?_priority hs hp
  have hwhole := Settings.isWhole_priority hs
  have hiff := hn.denotes_iff hread hwhole
  refine ⟨a, written, s.priority.toText, ha, hpayload, haddresses, hiff, ?_, ?_⟩
  · exact fun hlt => hiff.mpr (Double.shortest_of_natAbs_lt hlt)
  · exact hn.exists_shortest hread hwhole

end Write

def holding (target : Text) (records : Members) : Script :=
  ⟨[⟨none, .body Status.ok (toJson zoneJson (cleared target records)).write⟩], .none⟩

theorem gives_holding (target : Text) {records : Members} (h : records.Canonical) :
    Gives (Clears target records) ((holding target records).reply 0) :=
  ⟨_, rfl, spells_cleared h⟩

/-- An integer with many zeros at its end is written with a power of ten. -/
theorem priority_unchanged_iff_negative :
    let blob : Settings.Blob := .text (Text.ofString ("\x7b\"login\":\"user\"," ++
      "\"password\":\"pw\",\"domain\":\"example.com\",\"priority\":-1000000000000000000000\x7d"))
    let source := Text.ofString "-1000000000000000000000"
    let n : ℤ := -1000000000000000000000
    let ip := Text.ofString " 192.0.2.7\n"
    ∃ s write a written priority,
      Settings.ofBlob blob "example.com" "@" = .ok s ∧
      blob.prioritySource? = some source ∧ IsLiteral n source ∧
      write ∈ (runUpdate s ip (holding "example.com" [])).requests ∧
      write.endpoint = .changeRecords ∧ ip.trim = Ipv4.toText a ∧
      payload? write.url.toText =
        some (.object [("fqdn", .string s.target), ("records", .object written)]) ∧
      addresses written = [(Text.ofString "A",
        .array [.object [("priority", .number priority), ("value", .string a.toText)]])] ∧
      (Denotes priority n ↔ Shortest n) ∧
      (n.natAbs < 2 ^ 53 → Denotes priority n) ∧
      ∃ p : ℤ, Denotes priority p ∧ ofInt p = ofInt n ∧ Shortest p := by
  intro blob source n ip
  obtain ⟨s, hs, ht⟩ : ∃ s, Settings.ofBlob blob "example.com" "@" = .ok s ∧
      s.target = "example.com" := Settings.exists_of_target (by decide +kernel)
  have hp : blob.prioritySource? = some source := by decide +kernel
  have hn : IsLiteral n source := by
    have hsource : source = 0x2D :: Text.ofNat 1000000000000000000000 := by decide +kernel
    rw [hsource]
    exact .minus 1000000000000000000000
  have haddress : ip.trim = Ipv4.toText ⟨192, 0, 2, 7⟩ := by decide +kernel
  have hg : Gives (Clears s.target []) ((holding "example.com" []).reply 0) :=
    ht ▸ gives_holding s.target Members.canonical_nil
  have hw := writeCall_mem haddress hg
  obtain ⟨a, written, priority, h⟩ := priority_unchanged_iff hs hp hn hw rfl
  exact ⟨s, _, a, written, priority, hs, hp, hn, hw, rfl, h⟩

/-- The first integer after `2 ^ 53` is no double, so what is written is another one. -/
theorem large_priority_changes :
    let blob : Settings.Blob := .text (Text.ofString ("\x7b\"login\":\"user\"," ++
      "\"password\":\"secret\",\"domain\":\"example.com\",\"priority\":9007199254740993\x7d"))
    let source := Text.ofString "9007199254740993"
    let ip := Text.ofString "192.0.2.7"
    ∃ s write written,
      Settings.ofBlob blob "example.com" "@" = .ok s ∧
      blob.prioritySource? = some source ∧ IsLiteral 9007199254740993 source ∧
      write ∈ (runUpdate s ip (holding "example.com" [])).requests ∧
      write.endpoint = .changeRecords ∧
      payload? write.url.toText =
        some (.object [("fqdn", .string "example.com"), ("records", .object written)]) ∧
      addresses written = [(Text.ofString "A", .array [.object
        [("priority", .number "9007199254740992"), ("value", .string ip)]])] ∧
      ¬ Denotes (Text.ofString "9007199254740992") 9007199254740993 := by
  intro blob source ip
  have hread : (Settings.ofBlob blob "example.com" "@").toOption.map
      (fun s => (s.target, s.priority.toText)) =
        some (Text.ofString "example.com", Text.ofString "9007199254740992") := by decide +kernel
  obtain ⟨s, hs, hst⟩ := Settings.exists_of_map hread
  obtain ⟨ht, hp⟩ := Prod.mk.inj hst
  have haddress : ip.trim = Ipv4.toText ⟨192, 0, 2, 7⟩ := by decide +kernel
  have hg : Gives (Clears s.target []) ((holding "example.com" []).reply 0) :=
    ht ▸ gives_holding s.target Members.canonical_nil
  have hw := writeCall_mem haddress hg
  obtain ⟨a, written, ha, hpayload, hrecord⟩ := payload?_of_write hs hw rfl
  have hvalue : a.toText = ip := by
    rw [← ha]
    decide +kernel
  rw [ht] at hpayload
  rw [addressRecord, hp, hvalue] at hrecord
  have hsource : source = Text.ofNat 9007199254740993 := by decide +kernel
  have hwritten : Text.ofString "9007199254740992" = Double.signed false (Text.ofNat (2 ^ 53)) := by
    decide +kernel
  refine ⟨s, _, written, hs, by decide +kernel, ?_, hw, rfl, hpayload, hrecord, ?_⟩
  · rw [hsource]
    exact .plain 9007199254740993
  · rw [hwritten]
    intro hd
    have heq := hd.unique ⟨_, Double.decimal?_ofNat false (2 ^ 53), rfl⟩
    norm_num [Double.Decimal.value, Double.sign] at heq

end Update

end ZoneKeeper
