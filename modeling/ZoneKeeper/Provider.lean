import ZoneKeeper.Update

namespace ZoneKeeper

inductive Provider
  | beget (settings : Settings)

namespace Provider

def names : List Text := [Api.providerName]

/-- `[domain: … | owner: … | provider: … | ip: …]` -/
def describe (domain owner provider ipVersion : Text) : Text :=
  "[domain: " ++ domain ++ " | owner: " ++ owner ++ " | provider: " ++ provider ++ " | ip: " ++
    ipVersion ++ "]"

def beget? (blob : Settings.Blob) (domain owner : Text) : Except Failure Provider :=
  match Settings.ofBlob blob domain owner with
  | .ok s => .ok (beget s)
  | .error r => .error (.settings r)

/-- The provider of a name, blanks around it and the case of its letters aside. -/
def ofName? (name : Text) (blob : Settings.Blob) (domain owner : Text) : Except Failure Provider :=
  if Text.toLower name.trim = Api.providerName then beget? blob domain owner
  else .error (.unknownProvider name names)

def settings : Provider → Settings
  | beget s => s

def ipVersion : Provider → Text
  | beget _ => "ipv4"

/-- The last bits of an IPv6 address to keep, for providers that update such addresses. -/
def ipv6Suffix : Provider → Option Text
  | beget _ => none

def isProxied : Provider → Bool
  | beget _ => false

def domain (p : Provider) : Text := p.settings.domain

def owner (p : Provider) : Text := p.settings.owner

def toText (p : Provider) : Text := describe p.domain p.owner Api.providerName p.ipVersion

def domainName (p : Provider) : Text := Domain.ofOwner p.owner p.domain

structure Row where
  domain : Text
  owner : Text
  provider : Text
  ipVersion : Text

def link (address label : Text) : Text := "<a href=\"" ++ address ++ "\">" ++ label ++ "</a>"

def row (p : Provider) : Row where
  domain := link ("http://" ++ p.domainName) p.domainName
  owner := p.owner
  provider := link "https://beget.com" Api.label
  ipVersion := p.ipVersion

def logContext (p : Provider) : Members :=
  [("provider", .string Api.providerName), ("target", .string p.settings.target)]

def update (p : Provider) (ip : Text) (signalled : Bool) : Dialogue Text :=
  Update.update p.settings ip signalled

end Provider

end ZoneKeeper
