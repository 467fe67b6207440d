import Escrow.Engine.Sweep

/-!
# Setting an engine up

An engine with the pools and the archive of a configuration.  The path that its caller gives for the
archive goes before the one of the configuration.
-/

namespace Escrow.Engine

/-- Set an engine up with the pools and the archive of a configuration. -/
def withConfig (engine : Engine) (config : Config) (historyPath : Value) : Answer Engine := do
  let limited := { engine with memoLimit := config.memoLimit.toValue }
  let registered ← limited.registerAll (← config.pools)
  return registered.withArchive (← Archive.openAt (historyPath.orElse config.historyPath))

end Escrow.Engine
