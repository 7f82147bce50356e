import ZoneKeeper.Json.Writer
import ZoneKeeper.Log

namespace ZoneKeeper.Log

/-- Quotes and backslashes are all that a short text without controls has to escape. -/
def writePlain (t : Text) : Text :=
  0x22 :: t.flatMap (fun u => if u = 0x22 || u = 0x5C then [0x5C, u] else [u]) ++ [0x22]

/-- A half of a pair that stands alone is escaped only in texts that are long or hold controls. In
all others it goes to the stream as it is, and the stream repairs it. -/
def writeText (t : Text) : Text :=
  if 100 < t.length || t.any (· < 0x20) then Json.writeString t else writePlain t

def writeValue : Json → Text
  | .string t => writeText t
  | v => v.write

def writeField (field : Text × Json) : Text :=
  Json.writeString field.1 ++ 0x3A :: writeValue field.2

def Event.line (context : Members) (e : Event) : Text :=
  Text.repair (0x7B :: Text.join [0x2C] ((e.entry context).map writeField) ++ [0x7D])

end ZoneKeeper.Log
