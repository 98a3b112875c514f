import ExtensionHost.BatchResult
import ExtensionHost.Cleanup
import ExtensionHost.Error.Basic
import ExtensionHost.Event
import ExtensionHost.Gateway
import ExtensionHost.Settings.Basic
import ExtensionHost.Value.Tier

/-!
# Notices

What the host says about its work when something is not as it should be, and the
line of the log for it: the level, the message, and the fields in ascending order.
-/

namespace ExtensionHost

/-! ## Notices -/

/-- Something that the host has noticed. -/
inductive Notice where
  | factoryReplaced (entryPoint : String)
  | scanSkipped (e : DiscoveryError)
  | folderSkipped (folder : Path) (e : DiscoveryError)
  | abiVersionMissing (id : String) (artifact : Path)
  | dependencyUnresolved (id key : String)
  | coercionFailed (id : String) (expected : ParamType) (actual : String)
  | constructorFailed (id : String) (tier : Tier) (params : List ParamType) (e : ErrorChain)
  | syntheticFallback (id entryPoint reason : String)
  | recordReplaced (id : String)
  | stopFailed (e : LifecycleError)
  | gatewayReplaced (family : ProtocolFamily)
  | shutdownHookFailed (e : DrainError)
  | gatewayStopFailed (id : String) (e : ErrorChain)
  | pendingAbandoned (e : DrainError)
  | gatewayCloseFailed (id : String) (e : ErrorChain)
  | stopForced (id : String) (e : LifecycleError)
  | drainFailed (id : String) (e : LifecycleError)
  | drainTaskFailed (e : LifecycleError)
  | drainsAbandoned (e : DrainError) (unfinished : List String)
  | eventFailed (id : String) (change : Change) (e : HostError)
  | versionIgnored (e : LifecycleError)
  | previousCleanupFailed (id : String) (e : ErrorChain)
  | updateRolledBack (id : String) (e : HostError)
  | rollbackFailed (id : String) (e : HostError)
  | removalForced (id : String) (e : LifecycleError)
  | cleanupFailed (id : String) (e : ErrorChain)
  | cleanupHookFailed (id hook : String) (phase : CleanupPhase) (e : ErrorChain)
  | operationFailed (id : String) (change : Change) (e : HostError)
  | watchIntervalZero
  | watchBrokeDown (reason : String)
  deriving DecidableEq, Repr

/-! ## Log lines -/

/-- How grave the notice is. -/
def Notice.level : Notice → LogLevel
  | .syntheticFallback .. | .eventFailed .. | .updateRolledBack .. | .rollbackFailed .. => .error
  | _ => .warn

/-- The message of the notice. -/
def Notice.message : Notice → String
  | .factoryReplaced _ => "Replacing registered extension factory"
  | .scanSkipped _ => "Extension scan skipped"
  | .folderSkipped .. => "Skipping extension folder"
  | .abiVersionMissing .. => "No ABI version symbol exported"
  | .dependencyUnresolved .. => "Dependency unresolved, passing null"
  | .coercionFailed .. => "Cannot coerce dependency, passing null"
  | .constructorFailed .. => "Constructor failed"
  | .syntheticFallback .. => "Falling back to a synthetic extension; it serves nothing"
  | .recordReplaced _ => "Replaced registered extension"
  | .stopFailed _ => "Extension failed to stop"
  | .gatewayReplaced _ => "Replacing protocol gateway"
  | .shutdownHookFailed _ => "Continuing drain"
  | .gatewayStopFailed .. => "Gateway failed to stop accepting traffic"
  | .pendingAbandoned _ => "Forcing stop"
  | .gatewayCloseFailed .. => "Gateway failed to close connections"
  | .stopForced .. => "Stop failed, forcing"
  | .drainFailed .. => "Drain failed"
  | .drainTaskFailed _ => "Drain task failed"
  | .drainsAbandoned .. => "Abandoning remaining drains"
  | .eventFailed .. => "Lifecycle event failed"
  | .versionIgnored _ => "Proceeding with update"
  | .previousCleanupFailed .. => "Cleanup of previous version failed"
  | .updateRolledBack .. => "New version failed to load, rolling back"
  | .rollbackFailed .. => "Rollback failed"
  | .removalForced .. => "Graceful removal failed, forcing"
  | .cleanupFailed .. => "Extension cleanup failed"
  | .cleanupHookFailed .. => "Cleanup hook failed"
  | .operationFailed .. => "Lifecycle operation failed"
  | .watchIntervalZero => "Hot reload interval is zero, not starting"
  | .watchBrokeDown _ => "Hot reload task ended abnormally"

/-- The reason that there is no value under a key. -/
def unresolvedReason (key : String) : String :=
  "no dependency registered under '" ++ key ++ "'"

/-- The fields of the notice, in ascending order of their names. -/
def Notice.fields : Notice → List (String × String)
  | .factoryReplaced entryPoint => [("entry_point", entryPoint)]
  | .scanSkipped e => [("error", e.message)]
  | .folderSkipped folder e => [("error", e.message), ("folder", folder.text)]
  | .abiVersionMissing id artifact => [("extension_id", id), ("path", artifact.text)]
  | .dependencyUnresolved id key =>
    [("error", unresolvedReason key), ("extension_id", id), ("key", key)]
  | .coercionFailed id expected actual =>
    [("actual", actual), ("expected", expected.display), ("extension_id", id)]
  | .constructorFailed id tier params e =>
    [("error", e.brief), ("extension_id", id), ("signature", signatureText params),
      ("tier", tier.name)]
  | .syntheticFallback id entryPoint reason =>
    [("entry_point", entryPoint), ("extension_id", id), ("reason", reason)]
  | .recordReplaced id => [("extension_id", id)]
  | .gatewayReplaced family => [("family", family.display)]
  | .shutdownHookFailed e | .pendingAbandoned e => [("error", e.message)]
  | .stopFailed e | .drainTaskFailed e | .versionIgnored e => [("error", e.message)]
  | .gatewayStopFailed id e | .gatewayCloseFailed id e | .previousCleanupFailed id e
  | .cleanupFailed id e => [("error", e.brief), ("extension_id", id)]
  | .stopForced id e | .drainFailed id e | .removalForced id e =>
    [("error", e.message), ("extension_id", id)]
  | .drainsAbandoned e unfinished =>
    [("error", e.message), ("unfinished", quotedList unfinished)]
  | .updateRolledBack id e | .rollbackFailed id e => [("error", e.message), ("extension_id", id)]
  | .eventFailed id change e | .operationFailed id change e =>
    [("change", change.name), ("error", e.message), ("extension_id", id)]
  | .cleanupHookFailed id hook phase e =>
    [("error", e.brief), ("extension_id", id), ("hook", hook), ("phase", phase.name)]
  | .watchIntervalZero => []
  | .watchBrokeDown reason => [("error", reason)]

/-- The line of the log for the notice. -/
def Notice.line (n : Notice) : String :=
  " ".intercalate ((n.level.name :: n.message :: n.fields.map fun (name, value) =>
    name ++ "=" ++ value))

end ExtensionHost
