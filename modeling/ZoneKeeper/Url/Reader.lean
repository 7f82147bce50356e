import ZoneKeeper.Text.SingleLine
import ZoneKeeper.Url.Host

namespace ZoneKeeper.Url

def isSlash (scheme : Scheme) (u : CodeUnit) : Bool := u = 0x2F || (scheme.isSpecial && u = 0x5C)

def isPadding (u : CodeUnit) : Bool := u ≤ 0x20

/-- Halves of pairs are repaired first, so that taking out a line break between two of them makes no
pair. -/
def clean (t : Text) : Text :=
  (((t.dropWhile isPadding).reverse.dropWhile isPadding).reverse).filter fun u =>
    u ≠ 0x09 && u ≠ 0x0A && u ≠ 0x0D

def isSchemeUnit (u : CodeUnit) : Bool :=
  u.isLetter || u.isDigit || u = 0x2B || u = 0x2D || u = 0x2E

def splitScheme? (t : Text) : Option (Text × Text) :=
  match Text.cut 0x3A t with
  | (name, some rest) =>
    if name.head?.any CodeUnit.isLetter && name.all isSchemeUnit then
      some (Text.toLower name, rest)
    else none
  | _ => none

inductive Segment
  | here
  | up
  | named (t : Text)

def Segment.ofText (t : Text) : Segment :=
  let dotted : List Text := ["..", ".%2e", "%2e.", "%2e%2e"]
  let t' := Text.toLower t
  if t' = Text.ofString "." || t' = Text.ofString "%2e" then here
  else if dotted.contains t' then up
  else named (escape escapedInPath t)

/-- The letter of a drive and a colon, or the bar that some write for it. -/
def isDrive (t : Text) : Bool :=
  match t with
  | [letter, mark] => letter.isLetter && (mark = 0x3A || mark = 0x7C)
  | _ => false

def addSegment (scheme : Scheme) (path : List Text) (t : Text) : List Text :=
  if scheme = .file ∧ path = [] ∧ isDrive t then [t.take 1 ++ [0x3A]] else path ++ [t]

/-- One step up; the drive of a file stays. -/
def goUp (scheme : Scheme) (path : List Text) : List Text :=
  match path with
  | [t] => if scheme = .file ∧ isDrive t then path else []
  | path => path.dropLast

/-- The path after the segments of a text, starting below `path`; a dot segment at the end leaves a
path that ends in a slash. -/
def walk (scheme : Scheme) (path : List Text) : List Text → List Text
  | [] => path
  | t :: rest =>
    match Segment.ofText t with
    | .named s => walk scheme (addSegment scheme path s) rest
    | .here => walk scheme (if rest = [] then path ++ [[]] else path) rest
    | .up =>
      let above := goUp scheme path
      walk scheme (if rest = [] then above ++ [[]] else above) rest

def segments (scheme : Scheme) (t : Text) : List Text := t.splitOnP (isSlash scheme)

def rootedPath (scheme : Scheme) (t : Text) : List Text :=
  walk scheme [] (segments scheme (if t.head?.any (isSlash scheme) then t.drop 1 else t))

structure Authority where
  user : Text
  password : Text
  host : Text
  port : Option Nat

def readPort? (scheme : Scheme) (t : Text) : Option (Option Nat) :=
  let n := Text.digitsValue t
  if t = [] then some none
  else if t.all CodeUnit.isDigit && n ≤ 65535 then
    some (if scheme.port? = some n then none else some n)
  else none

/-- The text up to the first colon that is not between brackets, and what follows it. -/
def cutPort (bracketed : Bool) : Text → Text × Option Text
  | [] => ([], none)
  | u :: rest =>
    if u = 0x3A && !bracketed then ([], some rest)
    else
      let (host, port) := cutPort (u = 0x5B || (bracketed && u ≠ 0x5D)) rest
      (u :: host, port)

/-- Credentials end at the last `@`, and the first colon in them ends the user. Where there are
credentials or a port, there is a host. -/
def readAuthority? (scheme : Scheme) (t : Text) : Option Authority := do
  let (credentials, server) := Text.cutLast 0x40 t
  let (user, password) := Text.cut 0x3A (credentials.getD [])
  let (host, port) := cutPort false server
  if host = [] ∧ (credentials.isSome ∨ port.isSome) then none
  else
    let host ← readHost? scheme host
    let port ← readPort? scheme (port.getD [])
    return ⟨escape escapedInCredentials user, escape escapedInCredentials (password.getD []), host,
      port⟩

structure Split where
  body : Text
  query : Option Text
  fragment : Option Text

def split (scheme : Scheme) (t : Text) : Split :=
  let (rest, fragment) := Text.cut 0x23 t
  let (body, query) := Text.cut 0x3F rest
  ⟨body, query.map (escapeQuery scheme), fragment.map (escape escapedInFragment)⟩

def readFromAuthority? (scheme : Scheme) (t : Text) : Option Url := do
  let s := split scheme t
  let a ← readAuthority? scheme (s.body.takeWhile (!isSlash scheme ·))
  let rest := s.body.dropWhile (!isSlash scheme ·)
  let path := if rest = [] && !scheme.isSpecial then [] else rootedPath scheme rest
  return ⟨scheme, a.user, a.password, some a.host, a.port, .segments path, s.query, s.fragment⟩

/-- Any number of slashes may stand in front of an authority where one is due. -/
def readFromSlashes? (scheme : Scheme) (t : Text) : Option Url :=
  readFromAuthority? scheme (if scheme.isSpecial then t.dropWhile (isSlash scheme) else t)

/-- Files are on this host if none is named; a drive is never one. -/
def readFile? (t : Text) : Option Url := do
  let s := split .file t
  let doubled := (s.body.take 2).length = 2 && (s.body.take 2).all (isSlash .file)
  let server := if doubled then (s.body.drop 2).takeWhile (!isSlash .file ·) else []
  let rest := if doubled then s.body.drop 2 else s.body
  if server = [] ∨ isDrive server then
    return ⟨.file, [], [], some [], none, .segments (rootedPath .file rest), s.query, s.fragment⟩
  else
    let host ← readHost? .file server
    let host := if host = Text.ofString "localhost" then [] else host
    let path := rootedPath .file (rest.drop server.length)
    return ⟨.file, [], [], some host, none, .segments path, s.query, s.fragment⟩

/-- Two slashes start an authority, one starts a path, and any other text is a path as a whole. -/
def readOther? (scheme : Scheme) (t : Text) : Option Url :=
  match t with
  | 0x2F :: 0x2F :: r => readFromAuthority? scheme r
  | t =>
    let s := split scheme t
    let path : Path :=
      if s.body.head? = some 0x2F then .segments (rootedPath scheme s.body)
      else .plain (escape escapedInPlain s.body)
    some ⟨scheme, [], [], none, none, path, s.query, s.fragment⟩

/-- A text without a scheme of its own, below a base that has a host: two slashes start an
authority, one a path from the root, and an empty text is the base without its fragment. -/
def readRelative? (base : Url) (t : Text) : Option Url :=
  let slashes := t.take 2
  if slashes.length = 2 && slashes.all (isSlash base.scheme) then
    readFromSlashes? base.scheme (t.drop 2)
  else
    let s := split base.scheme t
    let list : List Text :=
      match base.path with
      | .segments list => list
      | .plain _ => []
    some <|
      if s.body = [] then { base with query := s.query <|> base.query, fragment := s.fragment }
      else
        let path :=
          if s.body.head?.any (isSlash base.scheme) then rootedPath base.scheme s.body
          else walk base.scheme (goUp base.scheme list) (segments base.scheme s.body)
        { base with path := .segments path, query := s.query, fragment := s.fragment }

/-- After the scheme of the base a single slash or none leaves the text relative. -/
def read? (base : Option Url) (t : Text) : Option Url :=
  let t := clean (Text.repair t)
  match splitScheme? t with
  | none => base.bind fun base => readRelative? base t
  | some (name, rest) =>
    match Scheme.ofName name with
    | .file => readFile? rest
    | .other name => readOther? (.other name) rest
    | scheme =>
      match base with
      | some base =>
        if base.scheme = scheme ∧ rest.take 2 ≠ [0x2F, 0x2F] then readRelative? base rest
        else readFromSlashes? scheme rest
      | none => readFromSlashes? scheme rest

end ZoneKeeper.Url
