import Mathlib
import ZoneKeeper.Proofs.Url.Form
import ZoneKeeper.Proofs.Url.Host

namespace ZoneKeeper

namespace Text

/-- Neither a query nor a fragment starts in the text. -/
def Unmarked (t : Text) : Prop := ∀ u ∈ t, u ≠ 0x3F ∧ u ≠ 0x23

@[simp] theorem unmarked_nil : Unmarked [] := fun _ hu => absurd hu List.not_mem_nil

@[simp] theorem unmarked_cons {u : CodeUnit} {t : Text} :
    Unmarked (u :: t) ↔ (u ≠ 0x3F ∧ u ≠ 0x23) ∧ Unmarked t := List.forall_mem_cons

@[simp] theorem unmarked_append {s t : Text} : Unmarked (s ++ t) ↔ Unmarked s ∧ Unmarked t :=
  List.forall_mem_append

theorem Unmarked.subset {s t : Text} (h : Unmarked t) (hs : s ⊆ t) : Unmarked s :=
  fun u hu => h u (hs hu)

theorem Unmarked.not_mem_query {t : Text} (h : Unmarked t) : (0x3F : CodeUnit) ∉ t :=
  fun hm => (h _ hm).1 rfl

theorem Unmarked.not_mem_fragment {t : Text} (h : Unmarked t) : (0x23 : CodeUnit) ∉ t :=
  fun hm => (h _ hm).2 rfl

theorem unmarked_of_all {p : CodeUnit → Bool} (hquery : p 0x3F = false)
    (hfragment : p 0x23 = false) {t : Text} (h : t.all p = true) : Unmarked t := by
  intro u hu
  have hp := List.all_eq_true.mp h u hu
  constructor
  · rintro rfl
    exact Bool.noConfusion (hquery.symm.trans hp)
  · rintro rfl
    exact Bool.noConfusion (hfragment.symm.trans hp)

def isUnmarked (t : Text) : Bool := t.all fun u => u ≠ 0x3F && u ≠ 0x23

theorem unmarked_of_isUnmarked {t : Text} (h : isUnmarked t = true) : Unmarked t :=
  unmarked_of_all (by decide) (by decide) h

theorem unmarked_ofNat (n : ℕ) : Unmarked (ofNat n) :=
  unmarked_of_all (by decide) (by decide) (List.all_eq_true.mpr (isDigit_of_mem_ofNat n))

theorem not_mem_fst_cut (mark : CodeUnit) (t : Text) : mark ∉ (cut mark t).1 := by
  unfold cut
  split
  · next h =>
    intro hm
    simpa using List.dropWhile_eq_nil_iff.mp h mark hm
  · intro hm
    simpa using List.mem_takeWhile_imp hm

theorem fst_cut_subset (mark : CodeUnit) (t : Text) : (cut mark t).1 ⊆ t := by
  unfold cut
  split
  · exact List.Subset.refl t
  · exact (List.takeWhile_prefix _).subset

end Text

namespace Scheme

theorem unmarked_name_ofName {t : Text} (h : Text.Unmarked t) : Text.Unmarked (ofName t).name := by
  have hfixed : [http, https, ws, wss, ftp, file].all (fun s => Text.isUnmarked s.name) = true := by
    decide +kernel
  unfold ofName
  cases hf : [http, https, ws, wss, ftp, file].find? fun s => s.name = t with
  | none => exact h
  | some s =>
    exact Text.unmarked_of_isUnmarked (List.all_eq_true.mp hfixed s (List.mem_of_find?_eq_some hf))

end Scheme

namespace Url
open Text

theorem unmarked_percent (b : UInt8) : Text.Unmarked (percent b) := by
  have h : ∀ b : UInt8, isUnmarked (percent b) = true := by decide +kernel
  exact unmarked_of_isUnmarked (h b)

theorem unmarked_escape_of {escaped : UInt8 → Bool} {t : Text}
    (h : ∀ b ∈ Utf8.encode t, escaped b = false → Text.Unmarked [b.toUInt16]) :
    Text.Unmarked (escape escaped t) := by
  intro u hu
  obtain ⟨b, hb, hu⟩ := List.mem_flatMap.mp hu
  split_ifs at hu with he
  · exact unmarked_percent b u hu
  · simp only [Bool.or_eq_true, not_or, Bool.not_eq_true] at he
    exact h b hb he.2 u hu

/-- Where both marks are escaped, none is left. -/
theorem unmarked_escape {escaped : UInt8 → Bool} (hquery : escaped 0x3F = true)
    (hfragment : escaped 0x23 = true) (t : Text) : Text.Unmarked (escape escaped t) := by
  refine unmarked_escape_of fun b _ hb => ?_
  have hne : b ≠ 0x3F ∧ b ≠ 0x23 := by
    constructor
    · rintro rfl
      exact Bool.noConfusion (hb.symm.trans hquery)
    · rintro rfl
      exact Bool.noConfusion (hb.symm.trans hfragment)
  have hall : ∀ b : UInt8, b ≠ 0x3F → b ≠ 0x23 → b.toUInt16 ≠ 0x3F ∧ b.toUInt16 ≠ 0x23 := by
    decide +kernel
  exact unmarked_cons.mpr ⟨hall b hne.1 hne.2, unmarked_nil⟩

theorem unmarked_escape_of_unmarked {t : Text} (h : Text.Unmarked t) (escaped : UInt8 → Bool) :
    Text.Unmarked (escape escaped t) := by
  refine unmarked_escape_of fun b hb _ => unmarked_cons.mpr ⟨?_, unmarked_nil⟩
  by_cases hlt : b < 0x80
  · exact h _ (Utf8.mem_of_mem_encode hlt hb)
  · have hall : ∀ b : UInt8, ¬ b < 0x80 → b.toUInt16 ≠ 0x3F ∧ b.toUInt16 ≠ 0x23 := by
      decide +kernel
    exact hall b hlt

def Path.Unmarked : Path → Prop
  | .segments list => ∀ t ∈ list, Text.Unmarked t
  | .plain t => Text.Unmarked t

theorem Path.Unmarked.text {path : Path} (h : path.Unmarked) : Text.Unmarked (pathText path) := by
  cases path with
  | plain t => exact h
  | segments list =>
    intro u hu
    obtain ⟨t, ht, hu⟩ := List.mem_flatMap.mp hu
    rcases List.mem_cons.mp hu with rfl | hu
    · decide
    · exact h t ht u hu

/-- No mark stands in front of the query and the fragment. -/
structure Unmarked (url : Url) : Prop where
  scheme : Text.Unmarked url.scheme.name
  user : Text.Unmarked url.user
  password : Text.Unmarked url.password
  host : ∀ host, url.host = some host → Text.Unmarked host
  path : url.path.Unmarked

section Parts
variable {scheme : Scheme}

theorem unmarked_of_ofText {s t : Text} (h : Segment.ofText t = .named s) : Text.Unmarked s := by
  unfold Segment.ofText at h
  dsimp only at h
  split_ifs at h
  rw [← Segment.named.inj h]
  exact unmarked_escape (by decide) (by decide) t

theorem unmarked_addSegment {path : List Text} (h : ∀ t ∈ path, Text.Unmarked t) {t : Text}
    (ht : Text.Unmarked t) : ∀ s ∈ addSegment scheme path t, Text.Unmarked s := by
  unfold addSegment
  split_ifs
  · intro s hs
    rw [List.mem_singleton.mp hs, unmarked_append]
    exact ⟨ht.subset (List.take_subset 1 t), unmarked_of_isUnmarked (by decide)⟩
  · exact List.forall_mem_append.mpr ⟨h, List.forall_mem_singleton.mpr ht⟩

theorem goUp_subset (path : List Text) : goUp scheme path ⊆ path := by
  unfold goUp
  split
  · split_ifs
    · exact List.Subset.refl _
    · exact List.nil_subset _
  · exact List.dropLast_subset _

theorem unmarked_walk {path : List Text} (h : ∀ t ∈ path, Text.Unmarked t) (list : List Text) :
    ∀ s ∈ walk scheme path list, Text.Unmarked s := by
  induction list generalizing path with
  | nil => exact h
  | cons t rest ih =>
    have hend : ∀ path : List Text, (∀ t ∈ path, Text.Unmarked t) →
        ∀ s ∈ (if rest = [] then path ++ [[]] else path), Text.Unmarked s := by
      intro path hpath
      split_ifs
      · exact List.forall_mem_append.mpr ⟨hpath, List.forall_mem_singleton.mpr unmarked_nil⟩
      · exact hpath
    rw [walk]
    cases hs : Segment.ofText t with
    | named s => exact ih (unmarked_addSegment h (unmarked_of_ofText hs))
    | here => exact ih (hend path h)
    | up => exact ih (hend _ fun s hs => h s (goUp_subset path hs))

theorem unmarked_rootedPath (t : Text) : ∀ s ∈ rootedPath scheme t, Text.Unmarked s :=
  unmarked_walk (fun _ hs => absurd hs List.not_mem_nil) _

theorem unmarked_of_isHostUnit {host : Text} (h : ∀ u ∈ host, IsHostUnit u) :
    Text.Unmarked host := by
  intro u hu
  exact ⟨(h u hu).ne fun hm => hm.query rfl, (h u hu).ne fun hm => hm.fragment rfl⟩

theorem unmarked_of_readHost? {t host : Text} (h : readHost? scheme t = some host) :
    Text.Unmarked host := by
  by_cases hspecial : scheme.isSpecial = true
  · exact unmarked_of_isHostUnit (isHostUnit_of_readHost? hspecial h)
  · unfold readHost? at h
    split_ifs at h with hbracket hforbidden
    · exact unmarked_of_isHostUnit (isHostUnit_of_readBracketed? h)
    · rw [← Option.some.inj h]
      simp only [Bool.not_eq_true, List.any_eq_false] at hforbidden
      refine unmarked_escape_of_unmarked (unmarked_of_all (p := fun u => !isForbiddenInHost u)
        (by decide) (by decide) ?_) _
      rw [List.all_eq_true]
      intro u hu
      simpa using hforbidden u hu

theorem unmarked_of_readAuthority? {t : Text} {a : Authority}
    (h : readAuthority? scheme t = some a) :
    Text.Unmarked a.user ∧ Text.Unmarked a.password ∧ Text.Unmarked a.host := by
  unfold readAuthority? at h
  dsimp only at h
  split_ifs at h
  obtain ⟨host, hhost, h⟩ := Option.bind_eq_some_iff.mp h
  obtain ⟨port, -, h⟩ := Option.bind_eq_some_iff.mp h
  obtain rfl := Option.some.inj h
  exact ⟨unmarked_escape (by decide) (by decide) _, unmarked_escape (by decide) (by decide) _,
    unmarked_of_readHost? hhost⟩

theorem unmarked_body (t : Text) : Text.Unmarked (split scheme t).body := by
  intro u hu
  have hquery := not_mem_fst_cut 0x3F (cut 0x23 t).1
  have hfragment := not_mem_fst_cut 0x23 t
  constructor
  · rintro rfl
    exact hquery hu
  · rintro rfl
    exact hfragment (fst_cut_subset 0x3F _ hu)

end Parts

section Readers
variable {scheme : Scheme} {t : Text} {url : Url}

theorem unmarked_of_readFromAuthority? (hs : Text.Unmarked scheme.name)
    (h : readFromAuthority? scheme t = some url) : url.Unmarked := by
  obtain ⟨a, ha, h⟩ := Option.bind_eq_some_iff.mp h
  obtain rfl := Option.some.inj h
  obtain ⟨huser, hpassword, hhost⟩ := unmarked_of_readAuthority? ha
  refine ⟨hs, huser, hpassword, fun host he => Option.some.inj he ▸ hhost, ?_⟩
  change ∀ s ∈ ite _ _ _, Text.Unmarked s
  split_ifs
  · exact fun s hs => absurd hs List.not_mem_nil
  · exact unmarked_rootedPath _

theorem unmarked_of_readFromSlashes? (hs : Text.Unmarked scheme.name)
    (h : readFromSlashes? scheme t = some url) : url.Unmarked :=
  unmarked_of_readFromAuthority? hs h

theorem unmarked_of_readFile? (h : readFile? t = some url) : url.Unmarked := by
  have hfile : Text.Unmarked Scheme.file.name := unmarked_of_isUnmarked (by decide +kernel)
  unfold readFile? at h
  extract_lets s doubled server rest at h
  split_ifs at h
  · obtain rfl := Option.some.inj h
    exact ⟨hfile, unmarked_nil, unmarked_nil, fun host he => Option.some.inj he ▸ unmarked_nil,
      unmarked_rootedPath _⟩
  · obtain ⟨host, hhost, h⟩ := Option.bind_eq_some_iff.mp h
    obtain rfl := Option.some.inj h
    refine ⟨hfile, unmarked_nil, unmarked_nil, fun name he => ?_, unmarked_rootedPath _⟩
    rw [← Option.some.inj he]
    split_ifs
    · exact unmarked_nil
    · exact unmarked_of_readHost? hhost

theorem unmarked_of_readOther? (hs : Text.Unmarked scheme.name)
    (h : readOther? scheme t = some url) : url.Unmarked := by
  unfold readOther? at h
  split at h
  · exact unmarked_of_readFromAuthority? hs h
  · obtain rfl := Option.some.inj h
    refine ⟨hs, unmarked_nil, unmarked_nil, fun host he => absurd he (by simp), ?_⟩
    split_ifs
    · exact unmarked_rootedPath _
    · exact unmarked_escape_of_unmarked (unmarked_body t) _

theorem unmarked_of_readRelative? {base : Url} (hb : base.Unmarked)
    (h : readRelative? base t = some url) : url.Unmarked := by
  have hlist : ∀ s ∈ (match base.path with
      | .segments list => list
      | .plain _ => []), Text.Unmarked s := by
    have hpath := hb.path
    split
    · next list he =>
      rw [he] at hpath
      exact hpath
    · exact fun s hs => absurd hs List.not_mem_nil
  unfold readRelative? at h
  dsimp only at h
  split at h
  · exact unmarked_of_readFromSlashes? hb.scheme h
  · obtain rfl := Option.some.inj h
    split
    · exact ⟨hb.scheme, hb.user, hb.password, hb.host, hb.path⟩
    · refine ⟨hb.scheme, hb.user, hb.password, hb.host, ?_⟩
      change ∀ s ∈ ite _ _ _, Text.Unmarked s
      split_ifs
      · exact unmarked_rootedPath _
      · exact unmarked_walk (fun s hs => hlist s (goUp_subset _ hs)) _

theorem unmarked_toLower_of_scheme {t : Text} (h : t.all isSchemeUnit = true) :
    Text.Unmarked (toLower t) := by
  have hunit : ∀ u : CodeUnit, isSchemeUnit u = true → u.toLower ≠ 0x3F ∧ u.toLower ≠ 0x23 := by
    intro u hu
    unfold CodeUnit.toLower
    split_ifs with hupper
    · simp only [CodeUnit.isUpper, Bool.and_eq_true, decide_eq_true_eq] at hupper
      grind
    · constructor
      · rintro rfl
        exact absurd hu (by decide)
      · rintro rfl
        exact absurd hu (by decide)
  intro u hu
  obtain ⟨v, hv, rfl⟩ := List.mem_map.mp hu
  exact hunit v (List.all_eq_true.mp h v hv)

theorem unmarked_of_splitScheme? {t name rest : Text} (h : splitScheme? t = some (name, rest)) :
    Text.Unmarked name := by
  unfold splitScheme? at h
  split at h
  · split_ifs at h with hname
    obtain ⟨rfl, -⟩ := Prod.mk.inj (Option.some.inj h)
    exact unmarked_toLower_of_scheme (Bool.and_eq_true_iff.mp hname).2
  · exact absurd h (by simp)

/-- Reading puts the marks of a query and a fragment nowhere else. -/
theorem unmarked_of_read? {base : Option Url} (hb : ∀ url, base = some url → url.Unmarked)
    (h : read? base t = some url) : url.Unmarked := by
  unfold read? at h
  dsimp only at h
  split at h
  · obtain ⟨base, rfl, h⟩ := Option.bind_eq_some_iff.mp h
    exact unmarked_of_readRelative? (hb base rfl) h
  · next name rest hsplit =>
    have hname := Scheme.unmarked_name_ofName (unmarked_of_splitScheme? hsplit)
    split at h
    · exact unmarked_of_readFile? h
    · next other he =>
      rw [he] at hname
      exact unmarked_of_readOther? hname h
    · split at h
      · next base =>
        split_ifs at h
        · exact unmarked_of_readRelative? (hb base rfl) h
        · exact unmarked_of_readFromSlashes? hname h
      · exact unmarked_of_readFromSlashes? hname h

end Readers

section Writing
variable {url : Url}

theorem Path.Unmarked.trimPath (h : url.path.Unmarked) : url.trimPath.Unmarked := by
  unfold Url.trimPath
  split
  · next t _ he _ =>
    rw [he] at h
    exact Text.Unmarked.subset h fun u hu =>
      List.mem_reverse.mp ((List.dropWhile_suffix _).subset (List.mem_reverse.mp hu))
  · exact h

theorem Unmarked.withQuery (h : url.Unmarked) (query : Text) : (url.withQuery query).Unmarked := by
  unfold Url.withQuery
  split_ifs
  · exact ⟨h.scheme, h.user, h.password, h.host, h.path.trimPath⟩
  · exact ⟨h.scheme, h.user, h.password, h.host, h.path⟩

theorem Unmarked.front (h : url.Unmarked) :
    Text.Unmarked (url.scheme.name ++ 0x3A :: url.hostText ++ pathText url.path) := by
  have hcredentials : Text.Unmarked url.credentialsText := by
    unfold credentialsText
    split_ifs <;> simp [h.user, h.password]
  have hport : Text.Unmarked url.portText := by
    unfold portText
    split <;> simp [unmarked_ofNat]
  have hhost : Text.Unmarked url.hostText := by
    unfold hostText
    split
    · next host he =>
      simp only [unmarked_append]
      exact ⟨⟨⟨unmarked_of_isUnmarked (by decide), hcredentials⟩, h.host host he⟩, hport⟩
    · exact unmarked_of_isUnmarked (by decide)
    · exact unmarked_nil
  simp [h.scheme, hhost, h.path.text]

/-- The query of an address is found again in its text, whatever the other parts are. -/
theorem queryOf_toText (h : url.Unmarked) (hquery : (0x23 : CodeUnit) ∉ url.query.getD []) :
    queryOf url.toText = url.query.getD [] := by
  have hfront := h.front
  have hrest : (0x23 : CodeUnit) ∉
      url.scheme.name ++ 0x3A :: url.hostText ++ pathText url.path ++ url.queryText := by
    rw [List.mem_append, not_or]
    refine ⟨hfront.not_mem_fragment, ?_⟩
    unfold queryText
    cases hq : url.query <;> simp_all
  have hcut : (cut 0x23 url.toText).1 =
      url.scheme.name ++ 0x3A :: url.hostText ++ pathText url.path ++ url.queryText := by
    unfold toText fragmentText
    split
    · rw [cut_append hrest]
    · rw [List.append_nil, cut_of_not_mem hrest]
  rw [queryOf, hcut]
  unfold queryText
  cases url.query with
  | none => rw [List.append_nil, cut_of_not_mem hfront.not_mem_query, Option.getD_none]
  | some q => rw [cut_append hfront.not_mem_query, Option.getD_some]

end Writing

end Url

end ZoneKeeper
