import ZoneKeeper.Api.Endpoint
import ZoneKeeper.Json.Writer
import ZoneKeeper.Url.Form
import ZoneKeeper.Url.Reader

namespace ZoneKeeper

structure Request where
  /-- The provider's name in messages. -/
  label : Text
  endpoint : Endpoint
  url : Url
  /-- Whether the caller's signal goes with the request. -/
  signalled : Bool

namespace Request

def method : Text := "GET"

/-- By name, in lower case. -/
def headers : List (Text × Text) :=
  [("accept", "application/json"), ("user-agent", Api.userAgent)]

/-- The address of `path` at the host. Slashes in front of the path do not count, so that they
cannot start an authority. -/
def address? (host path : Text) : Option Url := do
  let base ← Url.read? none ("https://" ++ host ++ "/")
  Url.read? (some base) (path.dropWhile (· = 0x2F))

/-- The entries replace any query that the address has, sorted by name. -/
def withEntries (url : Url) (entries : Form.Entries) : Url :=
  url.withQuery (Form.encode (Form.sort (Form.ofPairs entries)))

def make? (label : Text) (endpoint : Endpoint) (host path : Text) (entries : Form.Entries)
    (signalled : Bool) : Option Request :=
  (address? host path).map fun url => ⟨label, endpoint, withEntries url entries, signalled⟩

structure Credentials where
  login : Text
  password : Text

def callEntries (who : Credentials) (payload : Json) : Form.Entries :=
  [("login", who.login), ("passwd", who.password), ("input_format", "json"),
    ("output_format", "json"), ("input_data", payload.write)]

def authenticated? (who : Credentials) (endpoint : Endpoint) (path : Text) (payload : Json)
    (signalled : Bool) : Option Request :=
  make? Api.label endpoint Api.host path (callEntries who payload) signalled

end Request

end ZoneKeeper
