import ExtensionHost.Text.Number
import ExtensionHost.Text.Quoted

/-!
# Errors

What can go wrong, by the phase an extension is in: finding its folder, loading
its artifacts, constructing an instance, moving it through its life, draining
it; and reading the settings of the host. Each kind of error has its own type,
`HostError` gathers them, and `message` gives the wording.
-/

namespace ExtensionHost

/-! ## Finding folders -/

/-- Problems with a root, a folder or a manifest. -/
inductive DiscoveryError where
  | rootUnreadable (path reason : String)
  | folderNotFound (id searched : String)
  | manifestNotFound (folder : String)
  | malformedManifest (folder reason : String)
  | idMismatch (folderName declaredId : String)
  deriving DecidableEq, Repr

/-- The wording of the error. -/
def DiscoveryError.message : DiscoveryError → String
  | .rootUnreadable path reason => "Extension root not readable: " ++ path ++ ": " ++ reason
  | .folderNotFound id searched =>
    "Extension folder for '" ++ id ++ "' not found (searched: " ++ searched ++ ")"
  | .manifestNotFound folder => "Manifest not found in " ++ folder
  | .malformedManifest folder reason => "Malformed manifest in " ++ folder ++ ": " ++ reason
  | .idMismatch folderName declaredId =>
    "Folder name '" ++ folderName ++ "' does not match declared id '" ++ declaredId ++ "'"

/-- The extension the error is about, where it names one. -/
def DiscoveryError.extensionId? : DiscoveryError → Option String
  | .folderNotFound id _ => some id
  | .idMismatch _ declaredId => some declaredId
  | _ => none

/-! ## Loading artifacts -/

/-- Problems in building the context of an extension. -/
inductive LoadError where
  | discovery (id : String) (cause : DiscoveryError)
  | primaryMissing (id folder : String)
  | primaryAmbiguous (id folder : String) (candidates : List String)
  | libraryFailed (id path reason : String)
  | entryPointNotFound (id entryPoint : String)
  | artifactUnreadable (id path reason : String)
  deriving DecidableEq, Repr

/-- The extension the error is about. -/
def LoadError.extensionId : LoadError → String
  | .discovery id _ | .primaryMissing id _ | .primaryAmbiguous id _ _ | .libraryFailed id _ _
  | .entryPointNotFound id _ | .artifactUnreadable id _ _ => id

/-- The wording of the error. -/
def LoadError.message : LoadError → String
  | .discovery id cause => "[" ++ id ++ "] " ++ cause.message
  | .primaryMissing id folder => "[" ++ id ++ "] No primary artifact in " ++ folder
  | .primaryAmbiguous id folder candidates =>
    "[" ++ id ++ "] Ambiguous primary artifact in " ++ folder ++ ": " ++ quotedList candidates
  | .libraryFailed id path reason =>
    "[" ++ id ++ "] Failed to load library " ++ path ++ ": " ++ reason
  | .entryPointNotFound id entryPoint =>
    "[" ++ id ++ "] Entry point '" ++ entryPoint ++ "' is not registered"
  | .artifactUnreadable id path reason =>
    "[" ++ id ++ "] Failed to read " ++ path ++ ": " ++ reason

/-! ## Constructing instances -/

/-- Problems in turning an entry point into an instance. -/
inductive InstantiationError where
  | noUsableConstructor (id entryPoint reason : String)
  | identityMismatch (id reportedId : String)
  | missingEntryPoint (id : String)
  deriving DecidableEq, Repr

/-- The extension the error is about. -/
def InstantiationError.extensionId : InstantiationError → String
  | .noUsableConstructor id _ _ | .identityMismatch id _ | .missingEntryPoint id => id

/-- The wording of the error. -/
def InstantiationError.message : InstantiationError → String
  | .noUsableConstructor id entryPoint reason =>
    "[" ++ id ++ "] No usable constructor for '" ++ entryPoint ++ "': " ++ reason
  | .identityMismatch id reportedId => "[" ++ id ++ "] Instance reports id '" ++ reportedId ++ "'"
  | .missingEntryPoint id => "[" ++ id ++ "] Descriptor has no entry point"

/-! ## Life -/

/-- Problems in registering, starting, stopping and updating. -/
inductive LifecycleError where
  | notFound (id : String)
  | invalidRegistration (reason : String)
  | startFailed (id reason : String)
  | stopFailed (id reason : String)
  | updateFailed (id reason : String)
  | timeout (id operation : String) (timeoutMs : Nat)
  | versionIncompatibility (id fromVersion toVersion : String)
  | taskFailed (id reason : String)
  deriving DecidableEq, Repr

/-- The extension the error is about, where it names one. -/
def LifecycleError.extensionId? : LifecycleError → Option String
  | .invalidRegistration _ => none
  | .notFound id | .startFailed id _ | .stopFailed id _ | .updateFailed id _ | .timeout id _ _
  | .versionIncompatibility id _ _ | .taskFailed id _ => some id

/-- The wording of the error. -/
def LifecycleError.message : LifecycleError → String
  | .notFound id => "Extension not registered: " ++ id
  | .invalidRegistration reason => "Invalid registration: " ++ reason
  | .startFailed id reason => "[" ++ id ++ "] Start failed: " ++ reason
  | .stopFailed id reason => "[" ++ id ++ "] Stop failed: " ++ reason
  | .updateFailed id reason => "[" ++ id ++ "] Update failed: " ++ reason
  | .timeout id operation timeoutMs =>
    "[" ++ id ++ "] " ++ operation ++ " timed out after " ++ natText timeoutMs ++ "ms"
  | .versionIncompatibility id fromVersion toVersion =>
    "[" ++ id ++ "] Version " ++ fromVersion ++ " -> " ++ toVersion ++ " is not compatible"
  | .taskFailed id reason => "[" ++ id ++ "] Lifecycle task failed: " ++ reason

/-! ## Draining -/

/-- Problems in draining, which are reported and do not end the drain. -/
inductive DrainError where
  | timeout (id : String) (timeoutMs pending : Nat)
  | hookFailed (id hook reason : String)
  | allTimeout (timeoutMs : Nat)
  deriving DecidableEq, Repr

/-- The extension the error is about, where it names one. -/
def DrainError.extensionId? : DrainError → Option String
  | .timeout id _ _ | .hookFailed id _ _ => some id
  | .allTimeout _ => none

/-- The wording of the error. -/
def DrainError.message : DrainError → String
  | .timeout id timeoutMs pending =>
    "[" ++ id ++ "] Drain timed out after " ++ natText timeoutMs ++ "ms with " ++
      natText pending ++ " pending requests"
  | .hookFailed id hook reason =>
    "[" ++ id ++ "] Shutdown hook '" ++ hook ++ "' failed: " ++ reason
  | .allTimeout timeoutMs =>
    "Drain of all extensions timed out after " ++ natText timeoutMs ++ "ms"

/-! ## Settings -/

/-- Problems with the settings of the host. -/
inductive ConfigError where
  | fileNotFound (path : String)
  | loadFailed (path reason : String)
  | invalidFormat (reason : String)
  | invalidValue (field reason : String)
  deriving DecidableEq, Repr

/-- The wording of the error. -/
def ConfigError.message : ConfigError → String
  | .fileNotFound path => "Configuration file not found: " ++ path
  | .loadFailed path reason => "Failed to load configuration from " ++ path ++ ": " ++ reason
  | .invalidFormat reason => "Invalid configuration format: " ++ reason
  | .invalidValue field reason =>
    "Invalid configuration value for '" ++ field ++ "': " ++ reason

/-! ## All errors -/

/-- An error of the host. -/
inductive HostError where
  | discovery (e : DiscoveryError)
  | load (e : LoadError)
  | instantiation (e : InstantiationError)
  | lifecycle (e : LifecycleError)
  | drain (e : DrainError)
  | config (e : ConfigError)
  | internal (text : String)
  deriving DecidableEq, Repr

/-- The wording of the error, under the name of its phase. -/
def HostError.message : HostError → String
  | .discovery e => "Discovery error: " ++ e.message
  | .load e => "Isolation load error: " ++ e.message
  | .instantiation e => "Instantiation error: " ++ e.message
  | .lifecycle e => "Lifecycle error: " ++ e.message
  | .drain e => "Shutdown error: " ++ e.message
  | .config e => "Configuration error: " ++ e.message
  | .internal text => "Internal error: " ++ text

/-- The extension the error is about, where it names one. -/
def HostError.extensionId? : HostError → Option String
  | .discovery e => e.extensionId?
  | .load e => some e.extensionId
  | .instantiation e => some e.extensionId
  | .lifecycle e => e.extensionId?
  | .drain e => e.extensionId?
  | .config _ => none
  | .internal _ => none

/-- Whether the error says that the extension is not registered, and no more. -/
def HostError.isNotFound : HostError → Bool
  | .lifecycle (.notFound _) => true
  | _ => false

end ExtensionHost
