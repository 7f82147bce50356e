import Mathlib
import ZoneKeeper.Ipv4
import ZoneKeeper.Proofs.Text.Digits
import ZoneKeeper.Proofs.Text.Parts

namespace ZoneKeeper.Ipv4

theorem octet?_ofNat (o : UInt8) : octet? (Text.ofNat o.toNat) = some o := by
  revert o
  decide +kernel

theorem eq_ofNat_of_octet? {t : Text} {o : UInt8} (h : octet? t = some o) :
    t = Text.ofNat o.toNat := by
  simp only [octet?] at h
  split_ifs at h with ht
  simp only [isOctetText, Bool.and_eq_true, Bool.or_eq_true, decide_eq_true_eq,
    List.all_eq_true] at ht
  obtain ⟨⟨hd, hlen⟩, hle⟩ := ht
  have hdec : Text.IsDecimal t := by
    refine ⟨?_, hd, hlen.imp_right fun h => h.2⟩
    rintro rfl
    simp at hlen
  have ho : o.toNat = Text.digitsValue t := by
    rw [← Option.some.inj h]
    simp
    omega
  rw [ho, hdec.ofNat_digitsValue]

theorem octet?_eq_some_iff {t : Text} {o : UInt8} :
    octet? t = some o ↔ t = Text.ofNat o.toNat :=
  ⟨eq_ofNat_of_octet?, fun h => h ▸ octet?_ofNat o⟩

theorem dot_not_mem_ofNat (n : ℕ) : (0x2E : CodeUnit) ∉ Text.ofNat n := by
  intro h
  exact absurd (Text.isDigit_of_mem_ofNat n _ h) (by decide)

theorem splitOn_toText (a : Ipv4) :
    a.toText.splitOn 0x2E =
      [Text.ofNat a.a.toNat, Text.ofNat a.b.toNat, Text.ofNat a.c.toNat, Text.ofNat a.d.toNat] := by
  refine List.splitOn_intercalate _ ?_ (by simp)
  intro t ht
  obtain ⟨o, -, rfl⟩ := List.mem_map.mp ht
  exact dot_not_mem_ofNat _

theorem ofText?_toText (a : Ipv4) : ofText? a.toText = some a := by
  simp [ofText?, splitOn_toText, octet?_ofNat]

theorem eq_toText_of_ofText? {t : Text} {a : Ipv4} (h : ofText? t = some a) : t = a.toText := by
  unfold ofText? at h
  split at h
  · next w x y z hsplit =>
    simp only [Option.bind_eq_bind, Option.pure_def, Option.bind_eq_some_iff,
      octet?_eq_some_iff, Option.some.injEq] at h
    obtain ⟨a, rfl, b, rfl, c, rfl, d, rfl, rfl⟩ := h
    have hjoin : [0x2E].intercalate (t.splitOn 0x2E) = t := List.intercalate_splitOn 0x2E
    rw [← hjoin, hsplit]
    rfl
  · exact absurd h (by simp)

theorem range_of_mem {a : Ipv4} {u : CodeUnit} (hu : u ∈ a.toText) :
    0x2E ≤ u.toNat ∧ u.toNat ≤ 0x39 := by
  rcases Text.mem_join hu with hu | ⟨t, ht, hu⟩
  · rw [List.mem_singleton.mp hu]
    decide
  · obtain ⟨o, -, rfl⟩ := List.mem_map.mp ht
    have hdigit := (Text.isDigit_iff u).mp (Text.isDigit_of_mem_ofNat _ u hu)
    omega

/-- Reading a text finds an address exactly if the address is written between its blanks. -/
theorem read?_eq_some_iff {t : Text} {a : Ipv4} : read? t = some a ↔ t.trim = a.toText := by
  constructor
  · exact eq_toText_of_ofText?
  · intro h
    rw [read?, h, ofText?_toText]

theorem read?_eq_none_iff {t : Text} : read? t = none ↔ ∀ a : Ipv4, t.trim ≠ a.toText := by
  simp only [ne_eq, ← read?_eq_some_iff, Option.eq_none_iff_forall_not_mem, Option.mem_def]

end ZoneKeeper.Ipv4
