import ZoneKeeper.Api.Script
import ZoneKeeper.Update

namespace ZoneKeeper.Update

def runReconcile (s : Settings) (ip : Text) (script : Script) : Transcript Text :=
  (reconcile s ip script.signal.isGiven).run script

def runUpdate (s : Settings) (ip : Text) (script : Script) : Transcript Text :=
  (update s ip script.signal.isGiven).run script

end ZoneKeeper.Update
