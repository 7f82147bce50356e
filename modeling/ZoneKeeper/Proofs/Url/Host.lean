import Mathlib
import ZoneKeeper.Proofs.Ipv4
import ZoneKeeper.Url.Reader

namespace ZoneKeeper

namespace Text

def IsAscii (t : Text) : Prop := ∀ u ∈ t, u < 0x80

theorem isAscii_append {s t : Text} : IsAscii (s ++ t) ↔ IsAscii s ∧ IsAscii t :=
  List.forall_mem_append

theorem isAscii_join {ts : List Text} (h : ∀ t ∈ ts, IsAscii t) : IsAscii (join [0x2E] ts) := by
  intro u hu
  rcases mem_join hu with hu | ⟨t, ht, hu⟩
  · rw [List.mem_singleton.mp hu]
    decide
  · exact h t ht u hu

theorem isAscii_map_toUInt16 {cs : List ℕ} (h : ∀ c ∈ cs, c < 0x80) :
    IsAscii (cs.map Nat.toUInt16) := by
  intro u hu
  obtain ⟨c, hc, rfl⟩ := List.mem_map.mp hu
  have hlt := h c hc
  rw [UInt16.lt_iff_toNat_lt]
  show c % 2 ^ 16 < 0x80
  omega

end Text

theorem foldlM_preserves {α β : Type} {P : β → Prop} {f : β → α → Option β}
    (hf : ∀ b a b', P b → f b a = some b' → P b') {l : List α} {b b' : β} (hb : P b)
    (h : l.foldlM f b = some b') : P b' := by
  induction l generalizing b with
  | nil => exact Option.some.inj h ▸ hb
  | cons a l ih =>
    rw [List.foldlM_cons] at h
    obtain ⟨c, hc, h⟩ := Option.bind_eq_some_iff.mp h
    exact ih (hf b a c hb hc) h

theorem exists_of_mem_mapM {α β : Type} {f : α → Option β} {l : List α} {r : List β}
    (h : l.mapM f = some r) {b : β} (hb : b ∈ r) : ∃ a ∈ l, f a = some b := by
  induction l generalizing r with
  | nil =>
    obtain rfl := Option.some.inj h
    exact absurd hb List.not_mem_nil
  | cons a l ih =>
    rw [List.mapM_cons] at h
    obtain ⟨c, hc, h⟩ := Option.bind_eq_some_iff.mp h
    obtain ⟨s, hs, h⟩ := Option.bind_eq_some_iff.mp h
    obtain rfl := Option.some.inj h
    rcases List.mem_cons.mp hb with rfl | hb
    · exact ⟨a, List.mem_cons_self, hc⟩
    · obtain ⟨a', ha', hf⟩ := ih hs hb
      exact ⟨a', List.mem_cons_of_mem _ ha', hf⟩

namespace Idna
open Text

namespace Punycode

theorem digit_lt {d : ℕ} (h : d < 36) : digit d < 0x80 := by
  have hall : ∀ d : Fin 36, digit d < 0x80 := by decide
  exact hall ⟨d, h⟩

theorem isAscii_digits (bias place n : ℕ) : IsAscii (digits bias place n) := by
  fun_induction digits bias place n with
  | case1 place n t hlt =>
    have ht := threshold_bounds place bias
    exact List.forall_mem_singleton.mpr (digit_lt (by omega))
  | case2 place n t hge ih =>
    have ht := threshold_bounds place bias
    have hmod := Nat.mod_lt (n - t) (by omega : 0 < 36 - t)
    exact List.forall_mem_cons.mpr ⟨digit_lt (by omega), ih⟩

theorem isAscii_pass {basic : ℕ} (w : Writer) (c : ℕ) (w' : Writer) (h : IsAscii w.out)
    (hw : w.pass basic c = some w') : IsAscii w'.out := by
  unfold Writer.pass at hw
  split_ifs at hw
  · obtain rfl := Option.some.inj hw
    exact isAscii_append.mpr ⟨h, isAscii_digits _ _ _⟩
  · obtain rfl := Option.some.inj hw
    exact h
  · obtain rfl := Option.some.inj hw
    exact h

theorem isAscii_turn {label : List ℕ} {basic : ℕ} (w : Writer) (code : ℕ) (w' : Writer)
    (h : IsAscii w.out) (hw : w.turn label basic code = some w') : IsAscii w'.out := by
  unfold Writer.turn at hw
  dsimp only at hw
  split_ifs at hw
  obtain ⟨v, hv, hw⟩ := Option.bind_eq_some_iff.mp hw
  obtain rfl := Option.some.inj hw
  exact foldlM_preserves (P := fun w => IsAscii w.out) isAscii_pass h hv

theorem isAscii_of_encode? {label : List ℕ} {t : Text} (h : encode? label = some t) :
    IsAscii t := by
  obtain ⟨w, hw, h⟩ := Option.bind_eq_some_iff.mp h
  obtain rfl := Option.some.inj h
  have hout := foldlM_preserves (P := fun w => IsAscii w.out) isAscii_turn
    (fun _ hu => absurd hu List.not_mem_nil) hw
  have hbasic : IsAscii ((label.filter (· < 0x80)).map Nat.toUInt16) :=
    isAscii_map_toUInt16 fun c hc => of_decide_eq_true (List.mem_filter.mp hc).2
  have hmark : IsAscii (if label.filter (· < 0x80) = [] then [] else [0x2D]) := by
    split_ifs
    · exact fun _ hu => absurd hu List.not_mem_nil
    · exact List.forall_mem_singleton.mpr (by decide)
  exact isAscii_append.mpr ⟨isAscii_append.mpr ⟨hbasic, hmark⟩, hout⟩

end Punycode

theorem isAscii_of_labelToAscii? {label : List ℕ} {t : Text} (h : labelToAscii? label = some t) :
    IsAscii t := by
  unfold labelToAscii? at h
  split_ifs at h with hascii
  · dsimp only at h
    split_ifs at h
    obtain rfl := Option.some.inj h
    exact isAscii_map_toUInt16 fun c hc => of_decide_eq_true (List.all_eq_true.mp hascii c hc)
  · obtain ⟨s, hs, rfl⟩ := Option.map_eq_some_iff.mp h
    have hmark : Domain.encodedMark.all (· < 0x80) = true := by decide +kernel
    have hfront : IsAscii Domain.encodedMark := fun u hu =>
      of_decide_eq_true (List.all_eq_true.mp hmark u hu)
    exact isAscii_append.mpr ⟨hfront, Punycode.isAscii_of_encode? hs⟩

theorem isAscii_of_toAscii? {name : List ℕ} {t : Text} (h : toAscii? name = some t) :
    IsAscii t := by
  obtain ⟨ts, hts, rfl⟩ := Option.map_eq_some_iff.mp h
  apply isAscii_join
  intro t ht
  obtain ⟨label, -, hlabel⟩ := exists_of_mem_mapM hts ht
  exact isAscii_of_labelToAscii? hlabel

end Idna

namespace Ipv6

def isUnit (u : CodeUnit) : Bool := (0x30 ≤ u && u ≤ 0x3A) || (0x61 ≤ u && u ≤ 0x66)

theorem isUnit_of_mem_joinGroups {groups : List UInt16} {u : CodeUnit} (h : u ∈ joinGroups groups) :
    isUnit u = true := by
  have hdigit : ∀ d < 16, (Text.ofChar (Nat.digitChar d)).all isUnit = true := by decide
  rcases Text.mem_join h with hu | ⟨t, ht, hu⟩
  · rw [List.mem_singleton.mp hu]
    decide
  · obtain ⟨g, -, rfl⟩ := List.mem_map.mp ht
    exact List.all_eq_true.mp (Text.all_ofChars_toDigits (by decide) hdigit g.toNat) u hu

theorem isUnit_of_mem_toText {ip : Ipv6} {u : CodeUnit} (h : u ∈ ip.toText) :
    isUnit u = true := by
  unfold toText at h
  dsimp only at h
  split_ifs at h
  · exact isUnit_of_mem_joinGroups h
  · rcases List.mem_append.mp h with h | h
    · rcases List.mem_append.mp h with h | h
      · exact isUnit_of_mem_joinGroups h
      · have hcolons : ([0x3A, 0x3A] : Text).all isUnit = true := by decide
        exact List.all_eq_true.mp hcolons u h
    · exact isUnit_of_mem_joinGroups h

end Ipv6

namespace Url
open Text

/-- What a host is made of that is read where hosts are known. -/
structure IsHostUnit (u : CodeUnit) : Prop where
  low : 0x20 < u.toNat
  high : u.toNat < 0x7F
  slash : u.toNat ≠ 0x2F
  backslash : u.toNat ≠ 0x5C
  query : u.toNat ≠ 0x3F
  fragment : u.toNat ≠ 0x23
  credentials : u.toNat ≠ 0x40

theorem IsHostUnit.ne {u mark : CodeUnit} (hu : IsHostUnit u) (hm : ¬ IsHostUnit mark) :
    u ≠ mark := by
  rintro rfl
  exact hm hu

section Names
variable {t host : Text}

theorem isHostUnit_of_not_forbidden {u : CodeUnit} (h : isForbiddenInName u = false)
    (hascii : u < 0x80) : IsHostUnit u := by
  simp only [isForbiddenInName, isForbiddenInHost, Bool.or_eq_false_iff, Bool.and_eq_false_iff,
    decide_eq_false_iff_not, ← UInt16.toNat_inj, UInt16.le_iff_toNat_le, UInt16.lt_iff_toNat_lt,
    UInt16.reduceToNat] at h
  simp only [UInt16.lt_iff_toNat_lt, UInt16.reduceToNat] at hascii
  constructor <;> omega

theorem not_forbidden_toText (ip : Ipv4) :
    ∀ u ∈ ip.toText, isForbiddenInName u = false ∧ u < 0x80 := by
  have hdigit : ∀ u : CodeUnit, u.isDigit = true → isForbiddenInName u = false ∧ u < 0x80 := by
    intro u hu
    have hd := (isDigit_iff u).mp hu
    simp [isForbiddenInName, isForbiddenInHost, ← UInt16.toNat_inj, UInt16.le_iff_toNat_le,
      UInt16.lt_iff_toNat_lt]
    omega
  intro u hu
  rcases Text.mem_join hu with hu | ⟨t, ht, hu⟩
  · rw [List.mem_singleton.mp hu]
    decide
  · obtain ⟨octet, -, rfl⟩ := List.mem_map.mp ht
    exact hdigit u (isDigit_of_mem_ofNat _ u hu)

theorem not_forbidden_of_readName? (h : readName? t = some host) :
    ∀ u ∈ host, isForbiddenInName u = false ∧ u < 0x80 := by
  obtain ⟨cs, -, h⟩ := Option.bind_eq_some_iff.mp h
  obtain ⟨name, hname, h⟩ := Option.bind_eq_some_iff.mp h
  dsimp only at h
  split_ifs at h with hforbidden hnumber
  · obtain ⟨ip, -, rfl⟩ := Option.map_eq_some_iff.mp h
    exact not_forbidden_toText ip
  · obtain rfl := Option.some.inj h
    simp only [Bool.or_eq_true, not_or, List.any_eq_true, not_exists, not_and,
      Bool.not_eq_true] at hforbidden
    exact fun u hu => ⟨hforbidden.2 u hu, Idna.isAscii_of_toAscii? hname u hu⟩

theorem exists_of_readBracketed? (h : readBracketed? t = some host) :
    ∃ ip : Ipv6, host = 0x5B :: ip.toText ++ [0x5D] := by
  unfold readBracketed? at h
  split_ifs at h
  obtain ⟨ip, -, hip⟩ := Option.map_eq_some_iff.mp h
  exact ⟨ip, hip.symm⟩

theorem isHostUnit_of_readBracketed? (h : readBracketed? t = some host) :
    ∀ u ∈ host, IsHostUnit u := by
  obtain ⟨ip, rfl⟩ := exists_of_readBracketed? h
  intro u hu
  have hunit : u = 0x5B ∨ u ∈ ip.toText ∨ u = 0x5D := by simpa using hu
  rcases hunit with rfl | hmem | rfl
  · constructor <;> decide
  · have hrange := Ipv6.isUnit_of_mem_toText hmem
    simp only [Ipv6.isUnit, Bool.or_eq_true, Bool.and_eq_true, decide_eq_true_eq,
      UInt16.le_iff_toNat_le, UInt16.reduceToNat] at hrange
    constructor <;> omega
  · constructor <;> decide

theorem isHostUnit_of_readName? (h : readName? t = some host) : ∀ u ∈ host, IsHostUnit u := by
  intro u hu
  have hname := not_forbidden_of_readName? h u hu
  exact isHostUnit_of_not_forbidden hname.1 hname.2

theorem isHostUnit_of_readHost? {scheme : Scheme} (hs : scheme.isSpecial = true)
    (h : readHost? scheme t = some host) : ∀ u ∈ host, IsHostUnit u := by
  unfold readHost? at h
  split_ifs at h with hbracket
  · exact isHostUnit_of_readBracketed? h
  · exact isHostUnit_of_readName? h

set_option maxRecDepth 4000 in
/-- Wide letters are plain ones in another width, and other letters make an encoded label. -/
example : readHost? .http "%EF%BD%8Fther.example" = some (Text.ofString "other.example") ∧
    readHost? .http "bücher.example" = some (Text.ofString "xn--bcher-kva.example") := by
  decide +kernel

theorem cutPort_of_not_mem (h : (0x3A : CodeUnit) ∉ t) (bracketed : Bool) :
    cutPort bracketed t = (t, none) := by
  induction t generalizing bracketed with
  | nil => rfl
  | cons u t ih =>
    rw [List.mem_cons, not_or] at h
    have hu : ¬ (u = 0x3A && !bracketed) = true := by simp [Ne.symm h.1]
    rw [cutPort, if_neg hu, ih h.2]

theorem cutPort_bracketed (h : (0x5D : CodeUnit) ∉ t) :
    cutPort true (t ++ [0x5D]) = (t ++ [0x5D], none) := by
  induction t with
  | nil => rfl
  | cons u t ih =>
    rw [List.mem_cons, not_or] at h
    have hin : (u = 0x5B || (true && u ≠ 0x5D)) = true := by simp [Ne.symm h.1]
    have hu : ¬ (u = 0x3A && !true) = true := by simp
    rw [List.cons_append, cutPort, if_neg hu, hin, ih h.2]

/-- A host that was read holds no colon that could start a port. -/
theorem cutPort_of_readHost? {scheme : Scheme} (hs : scheme.isSpecial = true)
    (h : readHost? scheme t = some host) : cutPort false host = (host, none) := by
  unfold readHost? at h
  split_ifs at h with hbracket
  · obtain ⟨ip, rfl⟩ := exists_of_readBracketed? h
    have hend : (0x5D : CodeUnit) ∉ ip.toText := fun hm =>
      absurd (Ipv6.isUnit_of_mem_toText hm) (by decide)
    have hinside := cutPort_bracketed hend
    rw [List.cons_append, cutPort, if_neg (by decide)]
    exact congrArg (fun r => (0x5B :: r.1, r.2)) hinside
  · exact cutPort_of_not_mem (fun hm => absurd (not_forbidden_of_readName? h _ hm).1 (by decide))
      false

end Names

end Url

end ZoneKeeper
