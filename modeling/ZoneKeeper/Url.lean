import ZoneKeeper.Text.Utf8

namespace ZoneKeeper

/-- The schemes whose addresses always have a host, and all others. -/
inductive Scheme
  | http
  | https
  | ws
  | wss
  | ftp
  | file
  | other (name : Text)
deriving DecidableEq

namespace Scheme

def name : Scheme → Text
  | http => "http"
  | https => "https"
  | ws => "ws"
  | wss => "wss"
  | ftp => "ftp"
  | file => "file"
  | other name => name

def ofName (t : Text) : Scheme :=
  ([http, https, ws, wss, ftp, file].find? fun s => s.name = t).getD (other t)

def isSpecial : Scheme → Bool
  | other _ => false
  | _ => true

def port? : Scheme → Option Nat
  | http | ws => some 80
  | https | wss => some 443
  | ftp => some 21
  | file | other _ => none

end Scheme

/-- A path is a list of segments below a root, or a text that is not divided. -/
inductive Url.Path
  | segments (list : List Text)
  | plain (t : Text)
deriving DecidableEq

structure Url where
  scheme : Scheme
  user : Text
  password : Text
  host : Option Text
  port : Option Nat
  path : Url.Path
  query : Option Text
  fragment : Option Text
deriving DecidableEq

namespace Url

def hexUpper (n : Nat) : CodeUnit := if n < 10 then 0x30 + n.toUInt16 else 0x37 + n.toUInt16

def percent (b : UInt8) : Text := [0x25, hexUpper (b.toNat / 0x10), hexUpper (b.toNat % 0x10)]

/-- Controls, bytes outside ASCII and the bytes of the class are escaped. -/
def escape (escaped : UInt8 → Bool) (t : Text) : Text :=
  (Utf8.encode t).flatMap fun b =>
    if b < 0x20 || 0x7E < b || escaped b then percent b else [b.toUInt16]

/-- Where nothing but controls has to be escaped, spaces stay. -/
def escapedInPlain (_ : UInt8) : Bool := false

def escapedInFragment (b : UInt8) : Bool :=
  b = 0x20 || b = 0x22 || b = 0x3C || b = 0x3E || b = 0x60

def escapedInQuery (b : UInt8) : Bool :=
  b = 0x20 || b = 0x22 || b = 0x23 || b = 0x3C || b = 0x3E

def escapedInSpecialQuery (b : UInt8) : Bool := escapedInQuery b || b = 0x27

def escapedInPath (b : UInt8) : Bool :=
  escapedInQuery b || b = 0x3F || b = 0x60 || b = 0x7B || b = 0x7D

def escapedInCredentials (b : UInt8) : Bool :=
  escapedInPath b || b = 0x2F || b = 0x3A || b = 0x3B || b = 0x3D || b = 0x40 ||
    (0x5B ≤ b && b ≤ 0x5E) || b = 0x7C

def escapeQuery (scheme : Scheme) (t : Text) : Text :=
  escape (if scheme.isSpecial then escapedInSpecialQuery else escapedInQuery) t

/-- Spaces at the end of an address would be lost in reading it. -/
def trimPath (url : Url) : Path :=
  match url.path, url.fragment with
  | .plain t, none => .plain (t.reverse.dropWhile (· = 0x20)).reverse
  | path, _ => path

def withQuery (url : Url) (query : Text) : Url :=
  if query = [] then { url with query := none, path := url.trimPath }
  else { url with query := some (escapeQuery url.scheme query) }

def credentialsText (url : Url) : Text :=
  if url.user = [] ∧ url.password = [] then []
  else url.user ++ (if url.password = [] then [] else 0x3A :: url.password) ++ [0x40]

def portText (url : Url) : Text :=
  match url.port with
  | some n => 0x3A :: Text.ofNat n
  | none => []

def pathText : Path → Text
  | .segments list => list.flatMap (0x2F :: ·)
  | .plain t => t

/-- Without a host, a path that starts with two slashes has to be told from one. -/
def hostText (url : Url) : Text :=
  match url.host, url.path with
  | some host, _ => "//" ++ url.credentialsText ++ host ++ url.portText
  | none, .segments ([] :: _ :: _) => "/."
  | none, _ => []

def queryText (url : Url) : Text :=
  match url.query with
  | some q => 0x3F :: q
  | none => []

def fragmentText (url : Url) : Text :=
  match url.fragment with
  | some f => 0x23 :: f
  | none => []

def toText (url : Url) : Text :=
  url.scheme.name ++ 0x3A :: url.hostText ++ pathText url.path ++ url.queryText ++ url.fragmentText

end Url

end ZoneKeeper
