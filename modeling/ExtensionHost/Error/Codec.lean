import ExtensionHost.Document
import ExtensionHost.Json.Extent
import ExtensionHost.Json.Reader
import ExtensionHost.Error.Basic

/-!
# Errors as JSON

An error is an object with its phase under `type` and the rest under `details`.
The details of a phase are an object with one member: the kind of error, with an
object of its fields. An internal error has its text for details.
-/

namespace ExtensionHost

/-! ## Kinds and fields -/

/-- An object with one member. -/
def taggedJson (tag : String) (body : Json) : Json :=
  .object [(tag, body)]

/-- The tag and the body of an object with one member. -/
def tagged? : Json → Option (String × Json)
  | .object [(tag, body)] => some (tag, body)
  | _ => none

/-- The fields of an error, read from an object or from a list in order. -/
def errorFields? (names : List String) (body : Json) : Option (Record Json) :=
  Record.read? (names.map ([·])) body

/-- A field that is a text. -/
def Record.text? (r : Record Json) (name : String) : Option String :=
  r.required name Document.text?

/-! ## Finding folders -/

/-- The name of the kind of error. -/
def DiscoveryError.kind : DiscoveryError → String
  | .rootUnreadable .. => "RootUnreadable"
  | .folderNotFound .. => "FolderNotFound"
  | .manifestNotFound .. => "ManifestNotFound"
  | .malformedManifest .. => "MalformedManifest"
  | .idMismatch .. => "IdMismatch"

/-- The fields of the error. -/
def DiscoveryError.fields : DiscoveryError → List (String × Json)
  | .rootUnreadable path reason => [("path", .text path), ("reason", .text reason)]
  | .folderNotFound id searched => [("extension_id", .text id), ("searched", .text searched)]
  | .manifestNotFound folder => [("folder", .text folder)]
  | .malformedManifest folder reason => [("folder", .text folder), ("reason", .text reason)]
  | .idMismatch folderName declaredId =>
    [("folder_name", .text folderName), ("declared_id", .text declaredId)]

/-- The error as JSON. -/
def DiscoveryError.toJson (e : DiscoveryError) : Json :=
  taggedJson e.kind (.object e.fields)

/-- The error that JSON stands for. -/
def DiscoveryError.ofJson? (v : Json) : Option DiscoveryError := do
  let (kind, body) ← tagged? v
  match kind with
  | "RootUnreadable" => do
    let r ← errorFields? ["path", "reason"] body
    return .rootUnreadable (← r.text? "path") (← r.text? "reason")
  | "FolderNotFound" => do
    let r ← errorFields? ["extension_id", "searched"] body
    return .folderNotFound (← r.text? "extension_id") (← r.text? "searched")
  | "ManifestNotFound" => do
    let r ← errorFields? ["folder"] body
    return .manifestNotFound (← r.text? "folder")
  | "MalformedManifest" => do
    let r ← errorFields? ["folder", "reason"] body
    return .malformedManifest (← r.text? "folder") (← r.text? "reason")
  | "IdMismatch" => do
    let r ← errorFields? ["folder_name", "declared_id"] body
    return .idMismatch (← r.text? "folder_name") (← r.text? "declared_id")
  | _ => none

/-! ## Loading artifacts -/

/-- The name of the kind of error. -/
def LoadError.kind : LoadError → String
  | .discovery .. => "Discovery"
  | .primaryMissing .. => "PrimaryArtifactMissing"
  | .primaryAmbiguous .. => "PrimaryArtifactAmbiguous"
  | .libraryFailed .. => "LibraryLoadFailed"
  | .entryPointNotFound .. => "EntryPointNotFound"
  | .artifactUnreadable .. => "ArtifactUnreadable"

/-- The fields of the error. -/
def LoadError.fields : LoadError → List (String × Json)
  | .discovery id cause => [("extension_id", .text id), ("source", cause.toJson)]
  | .primaryMissing id folder => [("extension_id", .text id), ("folder", .text folder)]
  | .primaryAmbiguous id folder candidates =>
    [("extension_id", .text id), ("folder", .text folder), ("candidates", .texts candidates)]
  | .libraryFailed id path reason =>
    [("extension_id", .text id), ("path", .text path), ("reason", .text reason)]
  | .entryPointNotFound id entryPoint =>
    [("extension_id", .text id), ("entry_point", .text entryPoint)]
  | .artifactUnreadable id path reason =>
    [("extension_id", .text id), ("path", .text path), ("reason", .text reason)]

/-- The error as JSON. -/
def LoadError.toJson (e : LoadError) : Json :=
  taggedJson e.kind (.object e.fields)

/-- The error that JSON stands for. -/
def LoadError.ofJson? (v : Json) : Option LoadError := do
  let (kind, body) ← tagged? v
  match kind with
  | "Discovery" => do
    let r ← errorFields? ["extension_id", "source"] body
    return .discovery (← r.text? "extension_id") (← r.required "source" DiscoveryError.ofJson?)
  | "PrimaryArtifactMissing" => do
    let r ← errorFields? ["extension_id", "folder"] body
    return .primaryMissing (← r.text? "extension_id") (← r.text? "folder")
  | "PrimaryArtifactAmbiguous" => do
    let r ← errorFields? ["extension_id", "folder", "candidates"] body
    return .primaryAmbiguous (← r.text? "extension_id") (← r.text? "folder")
      (← r.required "candidates" Document.texts?)
  | "LibraryLoadFailed" => do
    let r ← errorFields? ["extension_id", "path", "reason"] body
    return .libraryFailed (← r.text? "extension_id") (← r.text? "path") (← r.text? "reason")
  | "EntryPointNotFound" => do
    let r ← errorFields? ["extension_id", "entry_point"] body
    return .entryPointNotFound (← r.text? "extension_id") (← r.text? "entry_point")
  | "ArtifactUnreadable" => do
    let r ← errorFields? ["extension_id", "path", "reason"] body
    return .artifactUnreadable (← r.text? "extension_id") (← r.text? "path") (← r.text? "reason")
  | _ => none

/-! ## Constructing instances -/

/-- The name of the kind of error. -/
def InstantiationError.kind : InstantiationError → String
  | .noUsableConstructor .. => "NoUsableConstructor"
  | .identityMismatch .. => "IdentityMismatch"
  | .missingEntryPoint .. => "MissingEntryPoint"

/-- The fields of the error. -/
def InstantiationError.fields : InstantiationError → List (String × Json)
  | .noUsableConstructor id entryPoint reason =>
    [("extension_id", .text id), ("entry_point", .text entryPoint), ("reason", .text reason)]
  | .identityMismatch id reportedId =>
    [("extension_id", .text id), ("reported_id", .text reportedId)]
  | .missingEntryPoint id => [("extension_id", .text id)]

/-- The error as JSON. -/
def InstantiationError.toJson (e : InstantiationError) : Json :=
  taggedJson e.kind (.object e.fields)

/-- The error that JSON stands for. -/
def InstantiationError.ofJson? (v : Json) : Option InstantiationError := do
  let (kind, body) ← tagged? v
  match kind with
  | "NoUsableConstructor" => do
    let r ← errorFields? ["extension_id", "entry_point", "reason"] body
    return .noUsableConstructor (← r.text? "extension_id") (← r.text? "entry_point")
      (← r.text? "reason")
  | "IdentityMismatch" => do
    let r ← errorFields? ["extension_id", "reported_id"] body
    return .identityMismatch (← r.text? "extension_id") (← r.text? "reported_id")
  | "MissingEntryPoint" => do
    let r ← errorFields? ["extension_id"] body
    return .missingEntryPoint (← r.text? "extension_id")
  | _ => none

/-! ## Life -/

/-- The name of the kind of error. -/
def LifecycleError.kind : LifecycleError → String
  | .notFound .. => "NotFound"
  | .invalidRegistration .. => "InvalidRegistration"
  | .startFailed .. => "StartFailed"
  | .stopFailed .. => "StopFailed"
  | .updateFailed .. => "UpdateFailed"
  | .timeout .. => "Timeout"
  | .versionIncompatibility .. => "VersionIncompatibility"
  | .taskFailed .. => "TaskFailed"

/-- The fields of the error. -/
def LifecycleError.fields : LifecycleError → List (String × Json)
  | .notFound id => [("extension_id", .text id)]
  | .invalidRegistration reason => [("reason", .text reason)]
  | .startFailed id reason | .stopFailed id reason | .updateFailed id reason
  | .taskFailed id reason => [("extension_id", .text id), ("reason", .text reason)]
  | .timeout id operation timeoutMs =>
    [("extension_id", .text id), ("operation", .text operation), ("timeout_ms", .nat timeoutMs)]
  | .versionIncompatibility id fromVersion toVersion =>
    [("extension_id", .text id), ("from_version", .text fromVersion),
      ("to_version", .text toVersion)]

/-- The error as JSON. -/
def LifecycleError.toJson (e : LifecycleError) : Json :=
  taggedJson e.kind (.object e.fields)

/-- An error with an extension and a reason. -/
def reasonedError? {α : Type} (make : String → String → α) (body : Json) : Option α := do
  let r ← errorFields? ["extension_id", "reason"] body
  return make (← r.text? "extension_id") (← r.text? "reason")

/-- The error that JSON stands for. -/
def LifecycleError.ofJson? (v : Json) : Option LifecycleError := do
  let (kind, body) ← tagged? v
  match kind with
  | "NotFound" => do
    let r ← errorFields? ["extension_id"] body
    return .notFound (← r.text? "extension_id")
  | "InvalidRegistration" => do
    let r ← errorFields? ["reason"] body
    return .invalidRegistration (← r.text? "reason")
  | "StartFailed" => reasonedError? .startFailed body
  | "StopFailed" => reasonedError? .stopFailed body
  | "UpdateFailed" => reasonedError? .updateFailed body
  | "Timeout" => do
    let r ← errorFields? ["extension_id", "operation", "timeout_ms"] body
    return .timeout (← r.text? "extension_id") (← r.text? "operation")
      (← r.required "timeout_ms" Document.nat64?)
  | "VersionIncompatibility" => do
    let r ← errorFields? ["extension_id", "from_version", "to_version"] body
    return .versionIncompatibility (← r.text? "extension_id") (← r.text? "from_version")
      (← r.text? "to_version")
  | "TaskFailed" => reasonedError? .taskFailed body
  | _ => none

/-! ## Draining -/

/-- The name of the kind of error. -/
def DrainError.kind : DrainError → String
  | .timeout .. => "Timeout"
  | .hookFailed .. => "HookFailed"
  | .allTimeout .. => "DrainAllTimeout"

/-- The fields of the error. -/
def DrainError.fields : DrainError → List (String × Json)
  | .timeout id timeoutMs pending =>
    [("extension_id", .text id), ("timeout_ms", .nat timeoutMs), ("pending", .nat pending)]
  | .hookFailed id hook reason =>
    [("extension_id", .text id), ("hook", .text hook), ("reason", .text reason)]
  | .allTimeout timeoutMs => [("timeout_ms", .nat timeoutMs)]

/-- The error as JSON. -/
def DrainError.toJson (e : DrainError) : Json :=
  taggedJson e.kind (.object e.fields)

/-- The error that JSON stands for. -/
def DrainError.ofJson? (v : Json) : Option DrainError := do
  let (kind, body) ← tagged? v
  match kind with
  | "Timeout" => do
    let r ← errorFields? ["extension_id", "timeout_ms", "pending"] body
    return .timeout (← r.text? "extension_id") (← r.required "timeout_ms" Document.nat64?)
      (← r.required "pending" Document.nat64?)
  | "HookFailed" => do
    let r ← errorFields? ["extension_id", "hook", "reason"] body
    return .hookFailed (← r.text? "extension_id") (← r.text? "hook") (← r.text? "reason")
  | "DrainAllTimeout" => do
    let r ← errorFields? ["timeout_ms"] body
    return .allTimeout (← r.required "timeout_ms" Document.nat64?)
  | _ => none

/-! ## Settings -/

/-- The name of the kind of error. -/
def ConfigError.kind : ConfigError → String
  | .fileNotFound .. => "FileNotFound"
  | .loadFailed .. => "LoadFailed"
  | .invalidFormat .. => "InvalidFormat"
  | .invalidValue .. => "InvalidValue"

/-- The fields of the error. -/
def ConfigError.fields : ConfigError → List (String × Json)
  | .fileNotFound path => [("path", .text path)]
  | .loadFailed path reason => [("path", .text path), ("reason", .text reason)]
  | .invalidFormat reason => [("reason", .text reason)]
  | .invalidValue field reason => [("field", .text field), ("reason", .text reason)]

/-- The error as JSON. -/
def ConfigError.toJson (e : ConfigError) : Json :=
  taggedJson e.kind (.object e.fields)

/-- The error that JSON stands for. -/
def ConfigError.ofJson? (v : Json) : Option ConfigError := do
  let (kind, body) ← tagged? v
  match kind with
  | "FileNotFound" => do
    let r ← errorFields? ["path"] body
    return .fileNotFound (← r.text? "path")
  | "LoadFailed" => do
    let r ← errorFields? ["path", "reason"] body
    return .loadFailed (← r.text? "path") (← r.text? "reason")
  | "InvalidFormat" => do
    let r ← errorFields? ["reason"] body
    return .invalidFormat (← r.text? "reason")
  | "InvalidValue" => do
    let r ← errorFields? ["field", "reason"] body
    return .invalidValue (← r.text? "field") (← r.text? "reason")
  | _ => none

/-! ## All errors -/

/-- The name of the phase. -/
def HostError.phase : HostError → String
  | .discovery _ => "Discovery"
  | .load _ => "IsolationLoad"
  | .instantiation _ => "Instantiation"
  | .lifecycle _ => "Lifecycle"
  | .drain _ => "Shutdown"
  | .config _ => "Config"
  | .internal _ => "Internal"

/-- The phase and the name of the kind of error. -/
def HostError.kind : HostError → String
  | .discovery e => "Discovery." ++ e.kind
  | .load e => "IsolationLoad." ++ e.kind
  | .instantiation e => "Instantiation." ++ e.kind
  | .lifecycle e => "Lifecycle." ++ e.kind
  | .drain e => "Shutdown." ++ e.kind
  | .config e => "Config." ++ e.kind
  | .internal _ => "Internal"

/-- The names of all phases. -/
def HostError.phases : List String :=
  ["Discovery", "IsolationLoad", "Instantiation", "Lifecycle", "Shutdown", "Config", "Internal"]

/-- The details of the error. -/
def HostError.details : HostError → Json
  | .discovery e => e.toJson
  | .load e => e.toJson
  | .instantiation e => e.toJson
  | .lifecycle e => e.toJson
  | .drain e => e.toJson
  | .config e => e.toJson
  | .internal text => .text text

/-- The error as JSON. -/
def HostError.toJson (e : HostError) : Json :=
  .object [("type", .text e.phase), ("details", e.details)]

/-- The error of a phase that the details stand for. -/
def HostError.ofDetails? (phase : String) (details : Json) : Option HostError :=
  match phase with
  | "Discovery" => (DiscoveryError.ofJson? details).map .discovery
  | "IsolationLoad" => (LoadError.ofJson? details).map .load
  | "Instantiation" => (InstantiationError.ofJson? details).map .instantiation
  | "Lifecycle" => (LifecycleError.ofJson? details).map .lifecycle
  | "Shutdown" => (DrainError.ofJson? details).map .drain
  | "Config" => (ConfigError.ofJson? details).map .config
  | "Internal" => (Document.text? details).map .internal
  | _ => none

/-- The details can be read in their place. Where they come in front of the phase
they have to be kept until it is known. -/
def readableDetails (r : Record Json) (details : Json) : Bool :=
  (r.fields.head?.map (·.1)) == some "type" || details.isKeepable 1

/-- The error that JSON stands for. -/
def HostError.ofJson? (v : Json) : Option HostError := do
  let r ← errorFields? ["type", "details"] v
  let phase ← r.required "type" (Document.choice? HostError.phases)
  let details ← r.required "details" some
  if readableDetails r details then HostError.ofDetails? phase details else none

/-- The error that a JSON text stands for. -/
def HostError.parse (s : String) : Option HostError :=
  (Json.parse s).bind HostError.ofJson?

end ExtensionHost
