import Mathlib
import ZoneKeeper.Proofs.Update.Request
import ZoneKeeper.Proofs.Url.Reader

namespace ZoneKeeper

namespace Url

/-- An address of https at a host: without credentials, at the port of the scheme. -/
structure At (url : Url) (host : Text) : Prop where
  scheme : url.scheme = .https
  user : url.user = []
  password : url.password = []
  host : url.host = some host
  port : url.port = none
  path : ∃ segment rest, url.path = .segments (segment :: rest)

section At
variable {url : Url} {host : Text}

theorem exists_segments_trimPath :
    (∃ segment rest, url.trimPath = .segments (segment :: rest)) ↔
      ∃ segment rest, url.path = .segments (segment :: rest) := by
  unfold Url.trimPath
  split
  · next t _ he _ => simp [he]
  · exact Iff.rfl

theorem at_withQuery_iff {query : Text} : (url.withQuery query).At host ↔ url.At host := by
  unfold Url.withQuery
  split_ifs
  · constructor
    · exact fun h =>
        ⟨h.scheme, h.user, h.password, h.host, h.port, exists_segments_trimPath.mp h.path⟩
    · exact fun h =>
        ⟨h.scheme, h.user, h.password, h.host, h.port, exists_segments_trimPath.mpr h.path⟩
  · exact ⟨fun h => ⟨h.scheme, h.user, h.password, h.host, h.port, h.path⟩,
      fun h => ⟨h.scheme, h.user, h.password, h.host, h.port, h.path⟩⟩

theorem At.prefix_toText (h : url.At host) :
    (Text.ofString "https://" ++ host ++ [0x2F]) <+: url.toText := by
  obtain ⟨segment, rest, hpath⟩ := h.path
  have hhost : url.hostText = Text.ofString "//" ++ host := by
    simp [hostText, credentialsText, portText, h.host, h.user, h.password, h.port]
  have hname : Text.ofString "https://" = Scheme.https.name ++ 0x3A :: Text.ofString "//" := by
    decide
  rw [toText, h.scheme, hhost, hpath, hname]
  simp [pathText]

end At

def root (host : Text) : Url := ⟨.https, [], [], some host, none, .segments [[]], none, none⟩

/-- Both slashes and backslashes in front of a text start an authority. -/
def startsAuthority (t : Text) : Bool :=
  (t.take 2).length = 2 && (t.take 2).all (isSlash .https)

/-- A text that is a path where addresses of https are read: it starts no authority, and any scheme
in front of it is https again. -/
def IsPath (t : Text) : Prop :=
  match splitScheme? t with
  | none => startsAuthority t = false
  | some (name, rest) => Scheme.ofName name = .https ∧ startsAuthority rest = false

instance (t : Text) : Decidable (IsPath t) := by
  unfold IsPath
  split <;> infer_instance

/-- The address that a text is by itself; without a scheme it is one of https. -/
def ownAddress? (t : Text) : Option Url :=
  match splitScheme? (clean (Text.repair t)) with
  | none => readFromSlashes? .https (clean (Text.repair t))
  | some _ => read? none t

section Paths
variable {scheme : Scheme} {t : Text}

theorem walk_ne_nil {list : List Text} (hl : list ≠ []) (path : List Text) :
    walk scheme path list ≠ [] := by
  induction list generalizing path with
  | nil => exact absurd rfl hl
  | cons t rest ih =>
    by_cases hr : rest = []
    · subst hr
      rw [walk]
      cases Segment.ofText t with
      | named s =>
        simp only [walk, addSegment]
        split_ifs <;> simp
      | here => simp [walk]
      | up => simp [walk]
    · rw [walk]
      cases Segment.ofText t <;> exact ih hr _

theorem rootedPath_ne_nil (t : Text) : rootedPath scheme t ≠ [] :=
  walk_ne_nil (List.splitOnP_ne_nil _ _) _

/-- A path moves within the host of its base. -/
theorem readRelative?_root (host : Text) (h : startsAuthority t = false) :
    ∃ url, readRelative? (root host) t = some url ∧ url.At host := by
  refine ⟨_, if_neg (Bool.not_eq_true _ ▸ h), ?_⟩
  split
  · exact ⟨rfl, rfl, rfl, rfl, rfl, [], [], rfl⟩
  · have hne : (if (split .https t).body.head?.any (isSlash .https) then
          rootedPath .https (split .https t).body
        else walk .https (goUp .https [[]]) (segments .https (split .https t).body)) ≠ [] := by
      split_ifs
      · exact rootedPath_ne_nil _
      · exact walk_ne_nil (List.splitOnP_ne_nil _ _) _
    obtain ⟨segment, rest, hpath⟩ := List.exists_cons_of_ne_nil hne
    exact ⟨rfl, rfl, rfl, rfl, rfl, segment, rest, congrArg Path.segments hpath⟩

theorem dropWhile_drop_two (h : startsAuthority t = true) :
    (t.drop 2).dropWhile (isSlash .https) = t.dropWhile (isSlash .https) := by
  match t with
  | [] => rfl
  | [u] => exact absurd h (by simp [startsAuthority])
  | u :: v :: rest =>
    simp only [startsAuthority, List.take_succ_cons, List.take_zero, List.all_cons, List.all_nil,
      Bool.and_true, Bool.and_eq_true] at h
    rw [List.dropWhile_cons_of_pos h.2.1, List.dropWhile_cons_of_pos h.2.2]
    rfl

theorem readRelative?_authority (host : Text) (h : startsAuthority t = true) :
    readRelative? (root host) t = readFromSlashes? .https t := by
  have hspecial : Scheme.https.isSpecial = true := rfl
  have hread : readRelative? (root host) t = readFromSlashes? .https (t.drop 2) := if_pos h
  rw [hread, readFromSlashes?, readFromSlashes?, if_pos hspecial, if_pos hspecial,
    dropWhile_drop_two h]

section Scheme
variable {name rest : Text} (hs : splitScheme? (clean (Text.repair t)) = some (name, rest))
include hs

/-- A text whose scheme is the one of the base is relative but for two slashes after it. -/
theorem read?_of_https (host : Text) (hn : Scheme.ofName name = .https) :
    read? (some (root host)) t =
      if rest.take 2 ≠ [0x2F, 0x2F] then readRelative? (root host) rest
      else readFromSlashes? .https rest := by
  simp only [read?, hs, hn, root, true_and]

theorem read?_of_other_scheme (host : Text) (hn : Scheme.ofName name ≠ .https) :
    read? (some (root host)) t = read? none t := by
  simp only [read?, hs]
  cases hname : Scheme.ofName name with
  | https => exact absurd hname hn
  | _ => simp [root]

end Scheme

theorem at_of_isPath (host : Text) (h : IsPath (clean (Text.repair t))) :
    ∃ url, read? (some (root host)) t = some url ∧ url.At host := by
  unfold IsPath at h
  split at h
  · next hs =>
    have hread : read? (some (root host)) t =
        readRelative? (root host) (clean (Text.repair t)) := by
      simp only [read?, hs, Option.bind_some]
    rw [hread]
    exact readRelative?_root host h
  · next name rest hs =>
    obtain ⟨hn, hstarts⟩ := h
    have hslashes : rest.take 2 ≠ [0x2F, 0x2F] := by
      intro he
      rw [startsAuthority, he] at hstarts
      exact absurd hstarts (by decide)
    rw [read?_of_https hs host hn, if_pos hslashes]
    exact readRelative?_root host hstarts

theorem read?_of_not_isPath (host : Text) (h : ¬ IsPath (clean (Text.repair t))) :
    read? (some (root host)) t = ownAddress? t := by
  unfold IsPath at h
  unfold ownAddress?
  split at h
  · next hs =>
    rw [Bool.not_eq_false] at h
    simp only [read?, hs, Option.bind_some]
    exact readRelative?_authority host h
  · next name rest hs =>
    rw [hs]
    by_cases hn : Scheme.ofName name = .https
    · have hstarts : startsAuthority rest = true := by simpa [hn] using h
      have hown : read? none t = readFromSlashes? .https rest := by simp only [read?, hs, hn]
      rw [read?_of_https hs host hn, readRelative?_authority host hstarts, ite_self, hown]
    · exact read?_of_other_scheme hs host hn

end Paths

section Hosts
open Text

theorem clean_eq_self {t : Text} (h : ∀ u ∈ t, isPadding u = false) : clean t = t := by
  have hfront : ∀ s : Text, (∀ u ∈ s, isPadding u = false) → s.dropWhile isPadding = s := by
    intro s hs
    exact List.dropWhile_eq_self_iff.mpr fun hl => by simp [hs _ (List.getElem_mem hl)]
  have hinner : ∀ u : CodeUnit, isPadding u = false →
      (u ≠ 0x09 && u ≠ 0x0A && u ≠ 0x0D) = true := by
    intro u hu
    simp [isPadding, ← UInt16.toNat_inj, UInt16.le_iff_toNat_le] at hu ⊢
    omega
  rw [clean, hfront t h, hfront t.reverse fun u hu => h u (List.mem_reverse.mp hu),
    List.reverse_reverse, List.filter_eq_self]
  exact fun u hu => hinner u (h u hu)

/-- A host in the form in which addresses keep it. -/
def IsHost (host : Text) : Prop := readHost? .https host = some host

instance (host : Text) : Decidable (IsHost host) := inferInstanceAs (Decidable (_ = _))

section Host
variable {host : Text} (h : IsHost host)
include h

theorem IsHost.ne_nil : host ≠ [] := by
  rintro rfl
  exact absurd h (by decide)

theorem IsHost.isHostUnit : ∀ u ∈ host, IsHostUnit u := isHostUnit_of_readHost? rfl h

theorem IsHost.not_mem {mark : CodeUnit} (hm : ¬ IsHostUnit mark) : mark ∉ host :=
  fun hmem => hm (h.isHostUnit mark hmem)

theorem IsHost.not_slash : ∀ u ∈ host, (!isSlash .https u) = true := by
  intro u hu
  have hslash : u ≠ 0x2F := (h.isHostUnit u hu).ne fun hm => hm.slash rfl
  have hback : u ≠ 0x5C := (h.isHostUnit u hu).ne fun hm => hm.backslash rfl
  simp [isSlash, hslash, hback]

theorem IsHost.split_root : split .https (host ++ [0x2F]) = ⟨host ++ [0x2F], none, none⟩ := by
  have hquery : (0x3F : CodeUnit) ∉ host ++ [0x2F] := by
    simpa using h.not_mem fun hm => hm.query rfl
  have hfragment : (0x23 : CodeUnit) ∉ host ++ [0x2F] := by
    simpa using h.not_mem fun hm => hm.fragment rfl
  simp [split, cut_of_not_mem hfragment, cut_of_not_mem hquery]

theorem readAuthority?_host : readAuthority? .https host = some ⟨[], [], host, none⟩ := by
  have hat : cutLast 0x40 host = (none, host) := by
    have hnot : (0x40 : CodeUnit) ∉ host := h.not_mem fun hm => hm.credentials rfl
    rw [cutLast, cut_of_not_mem fun hm => hnot (List.mem_reverse.mp hm)]
    exact congrArg _ (List.reverse_reverse host)
  have hcolon : cutPort false host = (host, none) := cutPort_of_readHost? rfl h
  have hread : readHost? .https host = some host := h
  have hnone : cut 0x3A [] = ([], none) := rfl
  simp [readAuthority?, hat, hnone, hcolon, hread, readPort?, escape, Utf8.encode, chars]

theorem readFromSlashes?_host :
    readFromSlashes? .https (ofString "//" ++ host ++ [0x2F]) = some (root host) := by
  have hdrop : (ofString "//" ++ host ++ [0x2F]).dropWhile (isSlash .https) = host ++ [0x2F] := by
    have hslashes : (ofString "//").all (isSlash .https) = true := by decide
    rw [List.append_assoc, List.dropWhile_append_of_pos (List.all_eq_true.mp hslashes)]
    obtain ⟨u, rest, rfl⟩ := List.exists_cons_of_ne_nil h.ne_nil
    have hu : ¬ isSlash .https u = true := by simpa using h.not_slash u (by simp)
    exact List.dropWhile_cons_of_neg hu
  have htake : (host ++ [0x2F]).takeWhile (!isSlash .https ·) = host := by
    rw [List.takeWhile_append_of_pos h.not_slash]
    simp [isSlash]
  have hrest : (host ++ [0x2F]).dropWhile (!isSlash .https ·) = [0x2F] := by
    rw [List.dropWhile_append_of_pos h.not_slash]
    simp [isSlash]
  have hroot : rootedPath .https [0x2F] = [[]] := by decide
  have hspecial : Scheme.https.isSpecial = true := rfl
  rw [readFromSlashes?, if_pos hspecial, hdrop, readFromAuthority?]
  simp [h.split_root, htake, hrest, hroot, readAuthority?_host h, root]

theorem read?_host : read? none (ofString "https://" ++ host ++ [0x2F]) = some (root host) := by
  -- No unit is padding and no half stands alone, so the text is read as it is.
  have hunits : ∀ u ∈ ofString "https://" ++ host ++ [0x2F],
      isPadding u = false ∧ u.isHalf = false := by
    simp only [List.forall_mem_append, List.forall_mem_singleton]
    have hname : (ofString "https://").all (fun u => !isPadding u && !u.isHalf) = true := by decide
    refine ⟨⟨fun u hu => ?_, fun u hu => ?_⟩, by decide⟩
    · simpa using List.all_eq_true.mp hname u hu
    · have hlow := (h.isHostUnit u hu).low
      have hhigh := (h.isHostUnit u hu).high
      rw [CodeUnit.isHalf_eq_false_iff, isPadding, decide_eq_false_iff_not, UInt16.le_iff_toNat_le]
      exact ⟨by simpa using hlow, by omega⟩
  have hclean : clean (repair (ofString "https://" ++ host ++ [0x2F])) =
      ofString "https://" ++ host ++ [0x2F] := by
    rw [(spelled_of_forall fun u hu => (hunits u hu).2).repair_eq]
    exact clean_eq_self fun u hu => (hunits u hu).1
  have hscheme : splitScheme? (ofString "https://" ++ host ++ [0x2F]) =
      some (ofString "https", ofString "//" ++ host ++ [0x2F]) := by
    have hname : ofString "https://" ++ host ++ [0x2F] =
        ofString "https" ++ 0x3A :: (ofString "//" ++ host ++ [0x2F]) := by
      rw [List.append_assoc, List.append_assoc]
      rfl
    rw [splitScheme?, hname, cut_append (by decide)]
    rfl
  have hname : Scheme.ofName (ofString "https") = .https := by decide
  simp only [read?, hclean, hscheme, hname]
  exact readFromSlashes?_host h

end Host

end Hosts

end Url

namespace Request
open Url

/-- A path that names no authority. Slashes in front of it do not count, but backslashes do, and so
do slashes after a blank. -/
def IsLocal (path : Text) : Prop :=
  IsPath (clean (Text.repair (path.dropWhile (· = 0x2F))))

instance (path : Text) : Decidable (IsLocal path) := inferInstanceAs (Decidable (IsPath _))

section Addresses
variable {host : Text} (h : IsHost host)
include h

theorem address?_eq (path : Text) :
    address? host path = read? (some (root host)) (path.dropWhile (· = 0x2F)) := by
  have hbase : Text.ofString "https://" ++ host ++ Text.ofString "/" =
      Text.ofString "https://" ++ host ++ [0x2F] := rfl
  rw [address?, hbase, read?_host h]
  rfl

theorem make?_of_isLocal {path : Text} (hp : IsLocal path) (label : Text) (endpoint : Endpoint)
    (entries : Form.Entries) (signalled : Bool) :
    ∃ r, make? label endpoint host path entries signalled = some r ∧ r.url.At host := by
  obtain ⟨url, hurl, hat⟩ := at_of_isPath host hp
  rw [make?, address?_eq h, hurl]
  exact ⟨_, rfl, at_withQuery_iff.mpr hat⟩

theorem make?_of_not_isLocal {path : Text} (hp : ¬ IsLocal path) (label : Text)
    (endpoint : Endpoint) (entries : Form.Entries) (signalled : Bool) :
    make? label endpoint host path entries signalled =
      (ownAddress? (path.dropWhile (· = 0x2F))).map fun url =>
        ⟨label, endpoint, withEntries url entries, signalled⟩ := by
  rw [make?, address?_eq h, read?_of_not_isPath host hp]

end Addresses

/-- A path that cannot lead away from a host: it is local, or it is no address but one at the host
itself. -/
def StaysAt (host path : Text) : Prop :=
  IsLocal path ∨ ∀ url, ownAddress? (path.dropWhile (· = 0x2F)) = some url → url.At host

theorem make?_at_iff {host : Text} (h : IsHost host) (label path : Text) (endpoint : Endpoint)
    (entries : Form.Entries) (signalled : Bool) :
    (∀ r, make? label endpoint host path entries signalled = some r → r.url.At host) ↔
      StaysAt host path := by
  by_cases hp : IsLocal path
  · obtain ⟨r, hr, hat⟩ := make?_of_isLocal h hp label endpoint entries signalled
    rw [hr]
    exact iff_of_true (fun r' he => Option.some.inj he ▸ hat) (Or.inl hp)
  · rw [make?_of_not_isLocal h hp, StaysAt, or_iff_right hp]
    constructor
    · intro hall url hurl
      exact at_withQuery_iff.mp (hall _ (by rw [hurl, Option.map_some]))
    · intro hall r hr
      obtain ⟨url, hurl, rfl⟩ := Option.map_eq_some_iff.mp hr
      exact at_withQuery_iff.mpr (hall url hurl)

theorem isHost_apiHost : IsHost Api.host := by decide +kernel

/-- A request goes to its host, and its text shows that, just when its path stays there. -/
theorem stays_iff {host : Text} (h : IsHost host) (label path : Text) (endpoint : Endpoint)
    (entries : Form.Entries) (s : Settings) (payload : Json) (signalled : Bool) :
    ((∀ r, make? label endpoint host path entries signalled = some r →
        r.url.At host ∧ (Text.ofString "https://" ++ host ++ [0x2F]) <+: r.url.toText) ↔
      StaysAt host path) ∧
    ((∀ r, Update.request s endpoint path (some payload) signalled = .ok r →
        r.url.At Api.host ∧ Text.ofString "https://api.beget.com/" <+: r.url.toText) ↔
      StaysAt Api.host path) := by
  constructor
  · rw [← make?_at_iff h label path endpoint entries signalled]
    exact ⟨fun hall r hr => (hall r hr).1, fun hall r hr => ⟨hall r hr, (hall r hr).prefix_toText⟩⟩
  · rw [← make?_at_iff isHost_apiHost Api.label path endpoint
      (callEntries ⟨s.login, s.password⟩ payload) signalled]
    simp only [Update.request_eq_ok_iff]
    exact ⟨fun hall r hr => (hall r hr).1, fun hall r hr => ⟨hall r hr, (hall r hr).prefix_toText⟩⟩

set_option maxRecDepth 4000 in
/-- The scheme of the host, dot segments, a query and a fragment leave a path local; two slashes
after a blank do not, and neither does a scheme in front of a host whose characters are escaped or
of an address in brackets. -/
theorem stays_iff_dot_segments :
    IsHost "example.com" ∧
    (∀ r, make? "Api" .getData "example.com" "//\t https:/a\\../..//b?c#d" [] false = some r →
      r.url.At "example.com" ∧ Text.ofString "https://example.com/" <+: r.url.toText) ∧
    ∀ path ∈ ([" //other.example", "http://%EF%BD%8Fther.example/p", "http://[::1]:8080/p"] :
        List Text),
      ¬ ∀ r, Update.request ⟨"example.com", "example.com", "@", "user", "secret", .nan⟩ .getData
        path (some .null) false = .ok r →
        r.url.At Api.host ∧ Text.ofString "https://api.beget.com/" <+: r.url.toText := by
  have hhost : IsHost "example.com" := by decide +kernel
  have hlocal : IsLocal "//\t https:/a\\../..//b?c#d" := by decide +kernel
  have hleaves : ∀ path : Text, ¬ IsLocal path →
      ((ownAddress? (path.dropWhile (· = 0x2F))).any fun url => url.host ≠ some Api.host) = true →
      ¬ ∀ r, Update.request ⟨"example.com", "example.com", "@", "user", "secret", .nan⟩ .getData
        path (some .null) false = .ok r →
        r.url.At Api.host ∧ Text.ofString "https://api.beget.com/" <+: r.url.toText := by
    intro path hpath hown hall
    obtain ⟨url, hurl, hne⟩ := (Option.any_eq_true _ _).mp hown
    have hstays := (stays_iff hhost "Api" path .getData []
      ⟨"example.com", "example.com", "@", "user", "secret", .nan⟩ .null false).2.mp hall
    exact of_decide_eq_true hne (hstays.resolve_left hpath _ hurl).host
  refine ⟨hhost, ?_, ?_⟩
  · exact (stays_iff hhost "Api" "//\t https:/a\\../..//b?c#d" .getData []
      ⟨"example.com", "example.com", "@", "user", "secret", .nan⟩ .null false).1.mpr (Or.inl hlocal)
  · simp only [List.forall_mem_cons, List.not_mem_nil, false_implies, implies_true, and_true]
    refine ⟨hleaves _ ?_ ?_, hleaves _ ?_ ?_, hleaves _ ?_ ?_⟩
    all_goals decide +kernel

set_option maxRecDepth 4000 in
/-- Two backslashes start an authority, and so the account goes to the host that they name; after
the name of another scheme it goes out in clear. -/
theorem request_leaves_host :
    (∃ r, Update.request ⟨"example.com", "example.com", "@", "user", "secret", .nan⟩ .getData
      "\\\\other.example\\p" (some (.object [])) false = .ok r ∧
      r.url.toText = Text.ofString ("https://other.example/p?input_data=%7B%7D&input_format=json" ++
        "&login=user&output_format=json&passwd=secret")) ∧
    ∃ r, Update.request ⟨"example.com", "example.com", "@", "user", "secret", .nan⟩ .getData
      "http:api.beget.com" (some (.object [])) false = .ok r ∧
      r.url.toText = Text.ofString ("http://api.beget.com/?input_data=%7B%7D&input_format=json" ++
        "&login=user&output_format=json&passwd=secret") := by
  have hslashes : address? Api.host "\\\\other.example\\p" =
      some ⟨.https, [], [], some "other.example", none, .segments ["p"], none, none⟩ := by
    decide +kernel
  have hclear : address? Api.host "http:api.beget.com" =
      some ⟨.http, [], [], some "api.beget.com", none, .segments [[]], none, none⟩ := by
    decide +kernel
  constructor
  · refine ⟨_, by rw [Update.request, authenticated?, make?, hslashes, Option.map_some], ?_⟩
    decide +kernel
  · refine ⟨_, by rw [Update.request, authenticated?, make?, hclear, Option.map_some], ?_⟩
    decide +kernel

end Request

end ZoneKeeper
