import ZoneKeeper.Text

namespace ZoneKeeper

inductive Endpoint
  | getData
  | changeRecords
deriving DecidableEq

namespace Endpoint

def name : Endpoint → Text
  | getData => "getData"
  | changeRecords => "changeRecords"

def ofName? (t : Text) : Option Endpoint :=
  if t = getData.name then some getData
  else if t = changeRecords.name then some changeRecords
  else none

def path : Endpoint → Text
  | getData => "api/dns/getData"
  | changeRecords => "api/dns/changeRecords"

end Endpoint

namespace Api

def host : Text := "api.beget.com"

def success : Text := "success"

def providerName : Text := "beget"

/-- The name of the provider in messages. -/
def label : Text := "Beget"

def userAgent : Text := "beget-ddns/0.1.0"

end Api

end ZoneKeeper
