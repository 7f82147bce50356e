import Mathlib
import ZoneKeeper.Proofs.Ipv4
import ZoneKeeper.Proofs.Text.Trim
import ZoneKeeper.Update

namespace ZoneKeeper

namespace Ipv4

structure IsOctet (o : UInt8) (t : Text) : Prop where
  decimal : Text.IsDecimal t
  value : Text.digitsValue t = o.toNat

inductive Dotted : Ipv4 → Text → Prop
  | intro {a b c d : UInt8} {w x y z : Text} (ha : IsOctet a w) (hb : IsOctet b x)
    (hc : IsOctet c y) (hd : IsOctet d z) :
    Dotted ⟨a, b, c, d⟩ (w ++ 0x2E :: (x ++ 0x2E :: (y ++ 0x2E :: z)))

/-- The text is the dotted form of the address with nothing but blanks around it. -/
def StandsIn (a : Ipv4) (t : Text) : Prop := ∃ x, Dotted a x ∧ Text.Pads x t

theorem isOctet_iff {o : UInt8} {t : Text} : IsOctet o t ↔ t = Text.ofNat o.toNat := by
  constructor
  · intro h
    rw [← h.value, h.decimal.ofNat_digitsValue]
  · rintro rfl
    exact ⟨Text.isDecimal_ofNat _, Text.digitsValue_ofNat _⟩

theorem toText_eq (a : Ipv4) : a.toText = Text.ofNat a.a.toNat ++ 0x2E ::
    (Text.ofNat a.b.toNat ++ 0x2E :: (Text.ofNat a.c.toNat ++ 0x2E :: Text.ofNat a.d.toNat)) := by
  simp [toText, Text.join, List.intercalate_cons_of_ne_nil]

theorem dotted_iff {a : Ipv4} {t : Text} : Dotted a t ↔ t = a.toText := by
  constructor
  · rintro ⟨ha, hb, hc, hd⟩
    rw [toText_eq, isOctet_iff.mp ha, isOctet_iff.mp hb, isOctet_iff.mp hc, isOctet_iff.mp hd]
  · rintro rfl
    rw [toText_eq]
    exact .intro (isOctet_iff.mpr rfl) (isOctet_iff.mpr rfl) (isOctet_iff.mpr rfl)
      (isOctet_iff.mpr rfl)

theorem toText_injective : Function.Injective toText := by
  intro a b h
  have hread := ofText?_toText a
  rw [h, ofText?_toText] at hread
  exact (Option.some.inj hread).symm

theorem isTrimmed_toText (a : Ipv4) : Text.IsTrimmed a.toText := by
  have hblank : ∀ u ∈ a.toText, u.isBlank = false := by
    intro u hu
    have hrange := range_of_mem hu
    simp only [CodeUnit.isBlank, Bool.or_eq_false_iff, Bool.and_eq_false_iff,
      decide_eq_false_iff_not, UInt16.le_iff_toNat_le, ← UInt16.toNat_inj, UInt16.reduceToNat]
    omega
  exact ⟨fun u hu => hblank u (List.mem_of_mem_head? hu),
    fun u hu => hblank u (List.mem_of_getLast? hu)⟩

theorem standsIn_iff {a : Ipv4} {t : Text} : StandsIn a t ↔ read? t = some a := by
  simp only [StandsIn, dotted_iff, exists_eq_left, read?_eq_some_iff, Text.trim_eq_iff,
    and_iff_left (isTrimmed_toText a)]

theorem StandsIn.unique {a b : Ipv4} {t : Text} (ha : StandsIn a t) (hb : StandsIn b t) : a = b :=
  Option.some.inj ((standsIn_iff.mp ha).symm.trans (standsIn_iff.mp hb))

theorem standsIn_toText (a : Ipv4) : StandsIn a a.toText := by
  rw [standsIn_iff, read?_eq_some_iff]
  exact Text.trim_eq_iff.mpr ⟨⟨[], [], by simp [Text.IsBlank]⟩, isTrimmed_toText a⟩

end Ipv4

namespace Update
open Ipv4

theorem canonical_of_standsIn {a : Ipv4} {ip : Text} (h : StandsIn a ip) :
    canonical ip = .ok a.toText := by
  rw [canonical, standsIn_iff.mp h]

theorem canonical_of_not_standsIn {ip : Text} (h : ¬ ∃ a, StandsIn a ip) :
    canonical ip = .error (.noAddress ip) := by
  have hread : read? ip = none := by
    refine Option.eq_none_iff_forall_not_mem.mpr fun a ha => h ⟨a, ?_⟩
    exact standsIn_iff.mpr ha
  rw [canonical, hread]

theorem canonical_eq_ok_iff {ip x : Text} :
    canonical ip = .ok x ↔ ∃ a, StandsIn a ip ∧ x = a.toText := by
  constructor
  · intro h
    by_cases hstands : ∃ a, StandsIn a ip
    · obtain ⟨a, ha⟩ := hstands
      rw [canonical_of_standsIn ha] at h
      exact ⟨a, ha, (Except.ok.inj h).symm⟩
    · rw [canonical_of_not_standsIn hstands] at h
      exact absurd h (by simp)
  · rintro ⟨a, ha, rfl⟩
    exact canonical_of_standsIn ha

theorem canonical_eq_error_iff {ip : Text} {f : Failure} :
    canonical ip = .error f ↔ (¬ ∃ a, StandsIn a ip) ∧ f = .noAddress ip := by
  constructor
  · intro h
    have hno : ¬ ∃ a, StandsIn a ip := by
      rintro ⟨a, ha⟩
      rw [canonical_of_standsIn ha] at h
      exact absurd h (by simp)
    rw [canonical_of_not_standsIn hno] at h
    exact ⟨hno, (Except.error.inj h).symm⟩
  · rintro ⟨hno, rfl⟩
    exact canonical_of_not_standsIn hno

theorem report_noAddress (ip : Text) : (Failure.noAddress ip).report =
    ⟨.range, Text.ofString "\"" ++ ip ++ Text.ofString "\" is not an IPv4 address"⟩ := by
  have hquote : Text.ofString "\"" = [0x22] := by decide +kernel
  have hrest : Text.ofString "\" is not an IPv4 address" =
      0x22 :: Text.ofString " is not an IPv4 address" := by decide +kernel
  rw [Failure.report, Failure.kind, Failure.message, Failure.quoted, hquote, hrest]
  simp only [List.cons_append, List.nil_append, List.append_assoc]

/-- Which texts an update takes for addresses, and what it makes of them. A text is taken exactly if
it is the dotted form of an address with blanks around it, and what is made of it is that form. Any
other text is refused and quoted as it was given. The dotted form tells the address and is taken as
it is, and two texts lead to the same form exactly if they stand for the same address. -/
theorem canonical_decodes (ip : Text) :
    (∀ x, canonical ip = .ok x ↔ Text.Pads x ip ∧ ∃ a, Dotted a x) ∧
    ((¬ ∃ a, StandsIn a ip) ↔ ∃ f, canonical ip = .error f ∧
      f.report = ⟨.range, Text.ofString "\"" ++ ip ++ Text.ofString "\" is not an IPv4 address"⟩) ∧
    (∀ x, canonical ip = .ok x → canonical x = .ok x ∧ ∃! a, Dotted a x) ∧
    ∀ ip' x x', canonical ip = .ok x → canonical ip' = .ok x' →
      (x = x' ↔ ∃ a, StandsIn a ip ∧ StandsIn a ip') := by
  refine ⟨fun x => ?_, ?_, fun x hx => ?_, fun ip' x x' hx hx' => ?_⟩
  · rw [canonical_eq_ok_iff]
    constructor
    · rintro ⟨a, ⟨y, hy, hpads⟩, rfl⟩
      obtain rfl := dotted_iff.mp hy
      exact ⟨hpads, a, hy⟩
    · rintro ⟨hpads, a, ha⟩
      exact ⟨a, ⟨x, ha, hpads⟩, dotted_iff.mp ha⟩
  · constructor
    · intro h
      exact ⟨_, canonical_eq_error_iff.mpr ⟨h, rfl⟩, report_noAddress ip⟩
    · rintro ⟨f, hf, -⟩
      exact (canonical_eq_error_iff.mp hf).1
  · obtain ⟨a, -, rfl⟩ := canonical_eq_ok_iff.mp hx
    refine ⟨canonical_of_standsIn (standsIn_toText a), a, dotted_iff.mpr rfl, fun b hb => ?_⟩
    exact toText_injective (dotted_iff.mp hb).symm
  · obtain ⟨a, ha, rfl⟩ := canonical_eq_ok_iff.mp hx
    obtain ⟨a', ha', rfl⟩ := canonical_eq_ok_iff.mp hx'
    constructor
    · intro h
      obtain rfl := toText_injective h
      exact ⟨a, ha, ha'⟩
    · rintro ⟨b, hb, hb'⟩
      rw [ha.unique hb, ha'.unique hb']

/-- Blanks of several kinds are put around an address, and the address stays the same. -/
theorem canonical_decodes_padded :
    let x : Text := "192.0.2.7"
    let ip : Text := [0xA0, 0x09] ++ x ++ [0xFEFF, 0x0A]
    canonical ip = .ok x ∧ canonical x = .ok x ∧ (∃! a, Dotted a x) ∧
      ∃ a, StandsIn a ip ∧ StandsIn a x := by
  intro x ip
  have hpads : Text.Pads x ip :=
    ⟨[0xA0, 0x09], [0xFEFF, 0x0A], by decide, by decide, List.append_assoc _ _ _⟩
  have hdotted : Dotted ⟨192, 0, 2, 7⟩ x := dotted_iff.mpr (by decide +kernel)
  obtain ⟨hok, -, hfixed, hsame⟩ := canonical_decodes ip
  have hx : canonical ip = .ok x := (hok x).mpr ⟨hpads, _, hdotted⟩
  obtain ⟨hself, hunique⟩ := hfixed x hx
  exact ⟨hx, hself, hunique, (hsame x x x hx hself).mp rfl⟩

/-- A zero in front of an octet makes it another text, which denotes nothing. -/
example : read? (Text.ofString "192.0.02.7") = none := by decide +kernel

end Update

end ZoneKeeper
