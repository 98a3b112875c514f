import ExtensionHost.Extension.Response

/-!
# Cleanup hooks

Hooks of the host that run after an extension has been removed or an update of it
has ended, in the order they were added.
-/

namespace ExtensionHost

/-- What has ended when cleanup hooks run. -/
inductive CleanupPhase where
  | removed
  | updateSucceeded
  | updateFailed
  deriving DecidableEq, Repr

/-- The name of the phase. -/
def CleanupPhase.name : CleanupPhase → String
  | .removed => "removed"
  | .updateSucceeded => "update-succeeded"
  | .updateFailed => "update-failed"

/-- A hook: how it answers when it is run for an extension. -/
structure CleanupHook where
  name : String
  respond : String → CleanupPhase → Response

end ExtensionHost
