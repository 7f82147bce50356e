import ZoneKeeper.Double.Shortest

namespace ZoneKeeper

abbrev Status := Double

def Status.ok : Status := Double.ofNat 200

end ZoneKeeper
