import ZoneKeeper.Double.Shortest
import ZoneKeeper.Json

namespace ZoneKeeper.Json

/-- No JSON number denotes an infinity or a NaN, so null stands for them. -/
def ofDouble : Double → Json
  | .finite negative m e h => .number (Double.finite negative m e h).toText
  | .infinite _ | .nan => .null

end ZoneKeeper.Json
