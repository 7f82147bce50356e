import Mathlib
import ZoneKeeper.Proofs.Update.Request
import ZoneKeeper.Proofs.Url.Entries
import ZoneKeeper.Proofs.Url.Reader

namespace ZoneKeeper

namespace Request

/-- The entries that the text of an address spells. -/
def sent (r : Request) : Form.Entries := Form.decode (Url.queryOf r.url.toText)

/-- A request sends each of the entries once, by the order of their names, in the text that they
have as a form. -/
structure Sends (r : Request) (entries : Form.Entries) : Prop where
  perm : r.sent.Perm entries
  ascending : (Form.names r.sent).Pairwise (· < ·)
  text : Url.queryOf r.url.toText = Form.encode r.sent

theorem unmarked_of_address? {host path : Text} {url : Url} (h : address? host path = some url) :
    url.Unmarked := by
  obtain ⟨base, hbase, h⟩ := Option.bind_eq_some_iff.mp h
  have hb : base.Unmarked := Url.unmarked_of_read? (fun _ he => absurd he (by simp)) hbase
  exact Url.unmarked_of_read? (fun _ he => Option.some.inj he ▸ hb) h

theorem queryOf_withEntries {url : Url} (h : url.Unmarked) (entries : Form.Entries) :
    Url.queryOf (withEntries url entries).toText =
      Form.encode (Form.sort (Form.ofPairs entries)) := by
  have hquery : (withEntries url entries).query.getD [] =
      Form.encode (Form.sort (Form.ofPairs entries)) := by
    unfold withEntries Url.withQuery
    split_ifs with hempty
    · exact hempty.symm
    · exact Form.escapeQuery_encode _ _
  have hmarks : (0x23 : CodeUnit) ∉ (withEntries url entries).query.getD [] := by
    rw [hquery]
    exact Form.not_mem_encode (by decide) (by decide) (by decide) _
  exact (Url.queryOf_toText (h.withQuery _) hmarks).trans hquery

section Made
variable {label host path : Text} {endpoint : Endpoint} {entries : Form.Entries} {signalled : Bool}
  {r : Request}

theorem queryOf_make? (h : make? label endpoint host path entries signalled = some r)
    (hnames : (Form.names entries).Nodup) (hspelled : Form.Spelled entries) :
    Url.queryOf r.url.toText = Form.encode (Form.sort entries) := by
  obtain ⟨url, hurl, rfl⟩ := Option.map_eq_some_iff.mp h
  rw [queryOf_withEntries (unmarked_of_address? hurl), Form.ofPairs_eq hnames hspelled]

theorem sent_make? (h : make? label endpoint host path entries signalled = some r)
    (hnames : (Form.names entries).Nodup) (hspelled : Form.Spelled entries) :
    r.sent = Form.sort entries := by
  have hrepair : ∀ e ∈ Form.sort entries, (e.1.repair, e.2.repair) = e := by
    intro e he
    obtain ⟨hn, hv⟩ := hspelled e ((Form.sort_perm entries).mem_iff.mp he)
    rw [hn.repair_eq, hv.repair_eq]
  rw [sent, queryOf_make? h hnames hspelled, Form.decode_encode, List.map_congr_left hrepair,
    List.map_id']

theorem sends_make? (h : make? label endpoint host path entries signalled = some r)
    (hnames : (Form.names entries).Nodup) (hspelled : Form.Spelled entries) :
    r.Sends entries where
  perm := by
    rw [sent_make? h hnames hspelled]
    exact Form.sort_perm entries
  ascending := by
    rw [sent_make? h hnames hspelled]
    exact List.pairwise_map.mpr (Form.sort_ascending hnames)
  text := by rw [sent_make? h hnames hspelled, queryOf_make? h hnames hspelled]

theorem make?_of_perm {others : Form.Entries} (hp : others.Perm entries)
    (hnames : (Form.names entries).Nodup) (hspelled : Form.Spelled entries) :
    make? label endpoint host path others signalled =
      make? label endpoint host path entries signalled := by
  have hothers : Form.ofPairs others = others :=
    Form.ofPairs_eq ((hp.map Prod.fst).nodup_iff.mpr hnames)
      fun e he => hspelled e (hp.mem_iff.mp he)
  simp only [make?, withEntries, hothers, Form.ofPairs_eq hnames hspelled,
    Form.sort_eq_of_perm hp hnames]

end Made

section Call
variable {s : Settings} {payload : Json}

def callQuery (s : Settings) (payload : Json) : Form.Entries :=
  [("input_data", payload.write), ("input_format", "json"), ("login", s.login),
    ("output_format", "json"), ("passwd", s.password)]

theorem sort_callEntries :
    Form.sort (callEntries ⟨s.login, s.password⟩ payload) = callQuery s payload := rfl

theorem nodup_names_callEntries (who : Credentials) :
    (Form.names (callEntries who payload)).Nodup := by
  have hnames : Form.names (callEntries who payload) =
      ["login", "passwd", "input_format", "output_format", "input_data"] := rfl
  rw [hnames]
  decide

theorem spelled_callEntries {who : Credentials} (hlogin : Text.Spelled who.login)
    (hpassword : Text.Spelled who.password) (hpayload : payload.Canonical) :
    Form.Spelled (callEntries who payload) := by
  simp only [Form.Spelled, callEntries, List.forall_mem_cons]
  exact ⟨⟨Text.spelled_ofString _, hlogin⟩, ⟨Text.spelled_ofString _, hpassword⟩,
    ⟨Text.spelled_ofString _, Text.spelled_ofString _⟩,
    ⟨Text.spelled_ofString _, Text.spelled_ofString _⟩,
    ⟨Text.spelled_ofString _, Json.spelled_write hpayload⟩, by simp⟩

/-- A call to either address of the provider can be made, whatever the phase that it belongs to. -/
theorem sent_call (hlogin : Text.Spelled s.login) (hpassword : Text.Spelled s.password)
    (phase e : Endpoint) (hpayload : payload.Canonical) (signalled : Bool) :
    ∃ r, Update.request s phase e.path (some payload) signalled = .ok r ∧
      r.sent = callQuery s payload := by
  have hmake : make? Api.label phase Api.host e.path (callEntries ⟨s.login, s.password⟩ payload)
      signalled = some { Update.call s e payload signalled with endpoint := phase } := by
    rw [make?, Endpoint.address?_path]
    rfl
  refine ⟨_, Update.request_eq_ok_iff.mpr hmake, ?_⟩
  rw [sent_make? hmake (nodup_names_callEntries _) (spelled_callEntries hlogin hpassword hpayload),
    sort_callEntries]

end Call

/-- Nothing in a name or a value, and nothing in a host or a path, changes what a request sends. -/
theorem query_round_trip :
    (∀ {label host path : Text} {endpoint : Endpoint} {entries : Form.Entries} {signalled : Bool}
        {r : Request}, make? label endpoint host path entries signalled = some r →
      (Form.names entries).Nodup → Form.Spelled entries →
      r.Sends entries ∧
        ∀ others : Form.Entries, others.Perm entries →
          make? label endpoint host path others signalled = some r) ∧
    ∀ (s : Settings) (phase e : Endpoint) (payload : Json) (signalled : Bool),
      Text.Spelled s.login → Text.Spelled s.password → payload.Canonical →
      ∃ r, Update.request s phase e.path (some payload) signalled = .ok r ∧
        r.sent = callQuery s payload := by
  refine ⟨fun h hnames hspelled => ⟨sends_make? h hnames hspelled, fun others hp => ?_⟩, ?_⟩
  · exact (make?_of_perm hp hnames hspelled).trans h
  · exact fun s phase e payload signalled hlogin hpassword hpayload =>
      sent_call hlogin hpassword phase e hpayload signalled

/-- Names and values made of what has a meaning in an address, and a character above U+FFFF, which
comes before U+FF5E by its units. -/
def reservedEntries : Form.Entries :=
  [("～", "&=%+#? \"'\x00"), ("😀", ""), ("", "%26"), ("a&b=c#d", "é\n")]

set_option maxRecDepth 8000 in
theorem query_round_trip_reserved :
    (∀ host ∈ (["example.com:8443", "[::1]:8443", "bücher.example"] : List Text),
      ∃ r, make? "Api" .getData host " /a/../b?c=d#e?f" reservedEntries true = some r ∧
        r.Sends reservedEntries) ∧
      ∃ r, Update.request ⟨"example.com", "example.com", "@", "a&passwd=b", "#?%", .nan⟩ .getData
        Endpoint.changeRecords.path (some (.array [.string [0xD800]])) false = .ok r ∧
        r.sent = ([("input_data", "[\"\\ud800\"]"), ("input_format", "json"),
          ("login", "a&passwd=b"), ("output_format", "json"), ("passwd", "#?%")] :
            Form.Entries) := by
  constructor
  · intro host hhost
    have haddresses : (["example.com:8443", "[::1]:8443", "bücher.example"] : List Text).all
        (fun host => (address? host " /a/../b?c=d#e?f").isSome) = true := by
      decide +kernel
    have haddress := List.all_eq_true.mp haddresses host hhost
    obtain ⟨url, hurl⟩ := Option.isSome_iff_exists.mp haddress
    have hmake : make? "Api" .getData host " /a/../b?c=d#e?f" reservedEntries true =
        some ⟨"Api", .getData, withEntries url reservedEntries, true⟩ := by
      rw [make?, hurl]
      rfl
    have hspelled : Form.Spelled reservedEntries := by
      simp only [Form.Spelled, reservedEntries, List.forall_mem_cons]
      simp [Text.spelled_ofString]
    exact ⟨_, hmake, (query_round_trip.1 hmake (by decide +kernel) hspelled).1⟩
  · obtain ⟨r, hr, hsent⟩ := query_round_trip.2
      ⟨"example.com", "example.com", "@", "a&passwd=b", "#?%", .nan⟩ .getData .changeRecords
      (.array [.string [0xD800]]) false (Text.spelled_ofString _) (Text.spelled_ofString _)
      (.array (by simp [Json.Canonical.string]))
    exact ⟨r, hr, hsent.trans rfl⟩

end Request

end ZoneKeeper
