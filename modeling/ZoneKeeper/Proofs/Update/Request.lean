import Mathlib
import ZoneKeeper.Proofs.Json.RoundTrip
import ZoneKeeper.Proofs.Url.Form
import ZoneKeeper.Update

namespace ZoneKeeper

namespace Endpoint

def url (e : Endpoint) : Url where
  scheme := .https
  user := []
  password := []
  host := some Api.host
  port := none
  path := .segments ["api", "dns", e.name]
  query := none
  fragment := none

def urlText (e : Endpoint) : Text := "https://" ++ Api.host ++ "/" ++ e.path

set_option maxRecDepth 4000 in
theorem address?_path (e : Endpoint) : Request.address? Api.host e.path = some e.url := by
  cases e <;> decide +kernel

set_option maxRecDepth 4000 in
theorem urlText_eq (e : Endpoint) :
    e.url.scheme.name ++ 0x3A :: e.url.hostText ++ Url.pathText e.url.path = e.urlText := by
  cases e <;> decide +kernel

set_option maxRecDepth 4000 in
theorem not_mem_urlText (e : Endpoint) :
    (0x3F : CodeUnit) ∉ e.urlText ∧ (0x23 : CodeUnit) ∉ e.urlText := by
  cases e <;> decide +kernel

end Endpoint

namespace Update

def call (s : Settings) (e : Endpoint) (payload : Json) (signalled : Bool) : Request where
  label := Api.label
  endpoint := e
  url := Request.withEntries e.url (Request.callEntries ⟨s.login, s.password⟩ payload)
  signalled := signalled

theorem request_eq_ok_iff {s : Settings} {phase : Endpoint} {path : Text} {payload : Json}
    {signalled : Bool} {r : Request} :
    request s phase path (some payload) signalled = .ok r ↔
      Request.make? Api.label phase Api.host path
        (Request.callEntries ⟨s.login, s.password⟩ payload) signalled = some r := by
  unfold request Request.authenticated?
  dsimp only
  split
  · next he => simp [he]
  · next he => simp [he]

/-- Making the request of a call cannot fail. -/
theorem request_eq (s : Settings) (e : Endpoint) (payload : Json) (signalled : Bool) :
    request s e e.path (some payload) signalled = .ok (call s e payload signalled) := by
  simp [request, Request.authenticated?, Request.make?, Endpoint.address?_path, call]

def sortedEntries (s : Settings) (payload : Json) : Form.Entries :=
  [("input_data", payload.write.repair), ("input_format", "json"), ("login", s.login.repair),
    ("output_format", "json"), ("passwd", s.password.repair)]

theorem sort_callEntries (s : Settings) (payload : Json) :
    Form.sort (Form.ofPairs (Request.callEntries ⟨s.login, s.password⟩ payload)) =
      sortedEntries s payload :=
  rfl

theorem encode_sortedEntries_ne_nil (s : Settings) (payload : Json) :
    Form.encode (sortedEntries s payload) ≠ [] := by
  intro h
  have hmark : (0x3D : CodeUnit) ∈ Form.encode (sortedEntries s payload) := by
    simp [Form.encode, sortedEntries, Text.join, List.intercalate_cons_of_ne_nil]
  rw [h] at hmark
  exact absurd hmark List.not_mem_nil

section Call
variable {s : Settings} {e : Endpoint} {payload : Json} {signalled : Bool}

theorem url_call :
    (call s e payload signalled).url =
      { e.url with query := some (Form.encode (sortedEntries s payload)) } := by
  simp only [call, Request.withEntries, sort_callEntries, Url.withQuery,
    if_neg (encode_sortedEntries_ne_nil s payload), Form.escapeQuery_encode]

theorem toText_url_call :
    (call s e payload signalled).url.toText =
      e.urlText ++ 0x3F :: Form.encode (sortedEntries s payload) := by
  have hhost : Url.hostText { e.url with query := some (Form.encode (sortedEntries s payload)) } =
      e.url.hostText := rfl
  rw [url_call, ← Endpoint.urlText_eq, Url.toText, hhost]
  simp [Url.queryText, Url.fragmentText, Endpoint.url]

theorem cut_fragment :
    Text.cut 0x23 (call s e payload signalled).url.toText =
      ((call s e payload signalled).url.toText, none) := by
  apply Text.cut_of_not_mem
  rw [toText_url_call]
  have hquery : (0x23 : CodeUnit) ∉ Form.encode (sortedEntries s payload) :=
    Form.not_mem_encode (by decide) (by decide) (by decide) _
  simpa [e.not_mem_urlText.2] using hquery

theorem cut_query :
    Text.cut 0x3F (call s e payload signalled).url.toText =
      (e.urlText, some (Form.encode (sortedEntries s payload))) := by
  rw [toText_url_call]
  exact Text.cut_append e.not_mem_urlText.1 _

theorem decode_queryOf_call :
    Form.decode (Url.queryOf (call s e payload signalled).url.toText) =
      sortedEntries s payload := by
  rw [Url.queryOf, cut_fragment, cut_query, Option.getD_some, Form.decode_encode]
  simp [sortedEntries, (Text.spelled_repair _).repair_eq, (Text.spelled_ofString _).repair_eq]

end Call

/-- The endpoint that the text of an address names in front of its query. -/
def endpoint? (url : Text) : Option Endpoint :=
  let address := (Text.cut 0x3F (Text.cut 0x23 url).1).1
  if address = Endpoint.getData.urlText then some .getData
  else if address = Endpoint.changeRecords.urlText then some .changeRecords
  else none

theorem endpoint?_call (s : Settings) (e : Endpoint) (payload : Json) (signalled : Bool) :
    endpoint? (call s e payload signalled).url.toText = some e := by
  have hne : Endpoint.changeRecords.urlText ≠ Endpoint.getData.urlText := by decide +kernel
  rw [endpoint?, cut_fragment, cut_query]
  cases e with
  | getData => exact if_pos rfl
  | changeRecords => rw [if_neg hne, if_pos rfl]

/-- The payload that the text of an address spells: one entry of its query, read as JSON. -/
def payload? (url : Text) : Option Json := do
  let input ← (Form.decode (Url.queryOf url)).lookup (Text.ofString "input_data")
  Json.read? Json.agree input

/-- Nothing of a payload is lost on the way into an address. -/
theorem payload?_call {s : Settings} {e : Endpoint} {payload : Json} {signalled : Bool}
    (h : Json.Canonical payload) :
    payload? (call s e payload signalled).url.toText = some payload := by
  have hwrite : payload.write.repair = payload.write := (Json.spelled_write h).repair_eq
  rw [payload?, decode_queryOf_call, sortedEntries, List.lookup_cons_self, hwrite]
  exact Json.read?_write h

end Update

end ZoneKeeper
