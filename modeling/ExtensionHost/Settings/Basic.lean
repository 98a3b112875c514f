import ExtensionHost.Document
import ExtensionHost.Error.Basic
import ExtensionHost.Path
import ExtensionHost.Text.Blank
import ExtensionHost.BatchResult

/-!
# Settings

How a host is set up: where extensions lie and what their folders hold, how long
the steps of their life may take, and what is logged. Every setting has a
default, so an empty document is a complete one.
-/

namespace ExtensionHost

/-! ## Folders -/

/-- Where extensions lie and what their folders hold. -/
structure FolderLayout where
  root : Path
  buildOutputRoot : Path
  libraryRoot : Path
  manifestFile : String
  disableMarker : String
  artifactExtensions : List String
  loadNativeArtifacts : Bool
  deriving DecidableEq, Repr

/-- The layout without any setting. -/
def FolderLayout.default : FolderLayout :=
  { root := ⟨"extensions"⟩
    buildOutputRoot := ⟨"target/extensions"⟩
    libraryRoot := ⟨"lib/extensions"⟩
    manifestFile := "extension.yaml"
    disableMarker := ".disabled"
    artifactExtensions := ["so", "dylib", "dll", "wasm", "pkg"]
    loadNativeArtifacts := true }

/-- The layout with the root given and the two other roots beside it, under its
name with an ending. A root without a name of its own lends none. -/
def FolderLayout.rootedAt (root : Path) : FolderLayout :=
  let name := root.fileName?.getD "extensions"
  { FolderLayout.default with
    root := root
    buildOutputRoot := root.withFileName (name ++ "-build")
    libraryRoot := root.withFileName (name ++ "-lib") }

/-- The roots in the order they are searched. -/
def FolderLayout.searchRoots (layout : FolderLayout) : List Path :=
  [layout.root, layout.buildOutputRoot, layout.libraryRoot]

/-- Whether two texts differ at most in the case of ASCII letters. -/
def equalIgnoringCase (a b : String) : Bool :=
  a.toList.map Char.toLower == b.toList.map Char.toLower

/-- Whether a path has the ending of an artifact. -/
def FolderLayout.isArtifact (layout : FolderLayout) (p : Path) : Bool :=
  match p.extension? with
  | some ending => layout.artifactExtensions.any (equalIgnoringCase · ending)
  | none => false

/-! ## Times and policies -/

/-- How long the steps of a life may take, in milliseconds, and what to do when
an instance cannot be constructed. -/
structure LifecyclePolicy where
  settleDelayMs : Nat
  drainTimeoutMs : Nat
  drainPollIntervalMs : Nat
  operationTimeoutMs : Nat
  syntheticFallback : Bool
  hotReload : Bool
  hotReloadIntervalMs : Nat
  deriving DecidableEq, Repr

/-- The policy without any setting. -/
def LifecyclePolicy.default : LifecyclePolicy :=
  { settleDelayMs := 500
    drainTimeoutMs := 30000
    drainPollIntervalMs := 100
    operationTimeoutMs := 60000
    syntheticFallback := true
    hotReload := false
    hotReloadIntervalMs := 5000 }

/-! ## Logging -/

/-- How log lines are written. -/
inductive LogFormat where
  | text
  | json
  deriving DecidableEq, Repr

/-- The name of the format. -/
def LogFormat.name : LogFormat → String
  | .text => "text"
  | .json => "json"

/-- The format with the name. -/
def LogFormat.ofName? (name : String) : Option LogFormat :=
  [LogFormat.text, .json].find? (·.name == name)

/-- What is logged. -/
structure LogSettings where
  level : String
  format : LogFormat
  fileLine : Bool
  moduleLevels : List (String × String)
  deriving DecidableEq, Repr

/-- Logging without any setting. -/
def LogSettings.default : LogSettings :=
  { level := "info"
    format := .text
    fileLine := false
    moduleLevels := [] }

/-- How grave a log line is. -/
inductive LogLevel where
  | error
  | warn
  | info
  | debug
  | trace
  deriving DecidableEq, Repr

/-- The name of the level. -/
def LogLevel.name : LogLevel → String
  | .error => "ERROR"
  | .warn => "WARN"
  | .info => "INFO"
  | .debug => "DEBUG"
  | .trace => "TRACE"

/-- The levels, the gravest first. -/
def LogLevel.all : List LogLevel :=
  [.error, .warn, .info, .debug, .trace]

/-- The level that a text names, by its name in any case or by its rank. -/
def LogLevel.parse? (s : String) : Option LogLevel :=
  match parseUnsigned? 10 s.toList with
  | some n => if 1 ≤ n then LogLevel.all[(n - 1).toNat]? else none
  | none => LogLevel.all.find? (equalIgnoringCase ·.name s)

/-- The level of the settings. -/
def LogSettings.parseLevel (s : LogSettings) : Except ConfigError LogLevel :=
  match LogLevel.parse? s.level with
  | some level => .ok level
  | none => .error (.invalidValue "logging.level" ("Invalid log level: " ++ s.level))

/-- The filter of the settings: the level, then each module with its own, in
order. -/
def LogSettings.directives (s : LogSettings) : String :=
  let modules := s.moduleLevels.foldl (fun table (name, level) => insertEntry name level table) []
  ",".intercalate (s.level :: modules.map fun (name, level) => name ++ "=" ++ level)

/-! ## All settings -/

/-- The settings of a host. -/
structure Settings where
  layout : FolderLayout
  policy : LifecyclePolicy
  logging : LogSettings
  deriving DecidableEq, Repr

/-- A host without any setting. -/
def Settings.default : Settings :=
  ⟨.default, .default, .default⟩

/-! ## Validity -/

/-- Fails with the reason given for the field unless the condition holds. -/
def requireValue (condition : Bool) (field reason : String) : Except ConfigError Unit :=
  if condition then .ok () else .error (.invalidValue field reason)

/-- Fails at the first setting of folders that cannot be used. -/
def FolderLayout.validate (layout : FolderLayout) : Except ConfigError Unit := do
  requireValue (!layout.root.isEmpty) "extensions.root" "cannot be empty"
  requireValue (!isBlankText layout.manifestFile) "extensions.manifest_file" "cannot be empty"
  requireValue (!isBlankText layout.disableMarker) "extensions.disable_marker" "cannot be empty"
  requireValue (!layout.artifactExtensions.isEmpty) "extensions.artifact_extensions"
    "at least one artifact extension is required"

/-- Fails at the first time or policy that cannot be used. -/
def LifecyclePolicy.validate (policy : LifecyclePolicy) : Except ConfigError Unit := do
  requireValue (policy.drainPollIntervalMs != 0) "lifecycle.drain_poll_interval_ms"
    "must be greater than zero"
  requireValue (policy.drainPollIntervalMs ≤ policy.drainTimeoutMs)
    "lifecycle.drain_poll_interval_ms"
    (natText policy.drainPollIntervalMs ++ "ms exceeds drain timeout of " ++
      natText policy.drainTimeoutMs ++ "ms")
  requireValue (policy.operationTimeoutMs != 0) "lifecycle.operation_timeout_ms"
    "must be greater than zero"
  requireValue (!(policy.hotReload && policy.hotReloadIntervalMs == 0))
    "lifecycle.hot_reload_interval_ms" "must be greater than zero when hot reload is enabled"

/-- Fails at the first setting that cannot be used. -/
def Settings.validate (s : Settings) : Except ConfigError Unit := do
  s.layout.validate
  s.policy.validate
  let _ ← s.logging.parseLevel
  return ()

/-! ## Reading -/

/-- The layout in a node. -/
def FolderLayout.read? {ν : Type} [Document ν] (node : ν) : Option FolderLayout := do
  let r ← Record.read? [["root"], ["build_output_root"], ["library_root"], ["manifest_file"],
    ["disable_marker"], ["artifact_extensions"], ["load_native_artifacts"]] node
  let fallback := FolderLayout.default
  let path := fun (node : ν) => (Document.text? node).map Path.mk
  return {
    root := ← r.optional "root" fallback.root path
    buildOutputRoot := ← r.optional "build_output_root" fallback.buildOutputRoot path
    libraryRoot := ← r.optional "library_root" fallback.libraryRoot path
    manifestFile := ← r.optional "manifest_file" fallback.manifestFile Document.text?
    disableMarker := ← r.optional "disable_marker" fallback.disableMarker Document.text?
    artifactExtensions :=
      ← r.optional "artifact_extensions" fallback.artifactExtensions Document.texts?
    loadNativeArtifacts :=
      ← r.optional "load_native_artifacts" fallback.loadNativeArtifacts Document.bool? }

/-- The policy in a node. -/
def LifecyclePolicy.read? {ν : Type} [Document ν] (node : ν) : Option LifecyclePolicy := do
  let r ← Record.read? [["settle_delay_ms"], ["drain_timeout_ms"], ["drain_poll_interval_ms"],
    ["operation_timeout_ms"], ["synthetic_fallback"], ["hot_reload"],
    ["hot_reload_interval_ms"]] node
  let fallback := LifecyclePolicy.default
  return {
    settleDelayMs := ← r.optional "settle_delay_ms" fallback.settleDelayMs Document.nat64?
    drainTimeoutMs := ← r.optional "drain_timeout_ms" fallback.drainTimeoutMs Document.nat64?
    drainPollIntervalMs :=
      ← r.optional "drain_poll_interval_ms" fallback.drainPollIntervalMs Document.nat64?
    operationTimeoutMs :=
      ← r.optional "operation_timeout_ms" fallback.operationTimeoutMs Document.nat64?
    syntheticFallback :=
      ← r.optional "synthetic_fallback" fallback.syntheticFallback Document.bool?
    hotReload := ← r.optional "hot_reload" fallback.hotReload Document.bool?
    hotReloadIntervalMs :=
      ← r.optional "hot_reload_interval_ms" fallback.hotReloadIntervalMs Document.nat64? }

/-- A log format in a node. -/
def LogFormat.read? {ν : Type} [Document ν] (node : ν) : Option LogFormat := do
  LogFormat.ofName? (← Document.choice? [LogFormat.text.name, LogFormat.json.name] node)

/-- The logging settings in a node. -/
def LogSettings.read? {ν : Type} [Document ν] (node : ν) : Option LogSettings := do
  let r ← Record.read? [["level"], ["format"], ["file_line"], ["module_levels"]] node
  let fallback := LogSettings.default
  return {
    level := ← r.optional "level" fallback.level Document.text?
    format := ← r.optional "format" fallback.format LogFormat.read?
    fileLine := ← r.optional "file_line" fallback.fileLine Document.bool?
    moduleLevels := ← r.optional "module_levels" fallback.moduleLevels Document.textTable? }

/-- The settings in a node. -/
def Settings.read? {ν : Type} [Document ν] (node : ν) : Option Settings := do
  let r ← Record.read? [["extensions"], ["lifecycle"], ["logging"]] node
  return {
    layout := ← r.optional "extensions" .default FolderLayout.read?
    policy := ← r.optional "lifecycle" .default LifecyclePolicy.read?
    logging := ← r.optional "logging" .default LogSettings.read? }

/-! ## Writing -/

/-- The layout as JSON. -/
def FolderLayout.toJson (layout : FolderLayout) : Json :=
  .object [
    ("root", .text layout.root.text),
    ("build_output_root", .text layout.buildOutputRoot.text),
    ("library_root", .text layout.libraryRoot.text),
    ("manifest_file", .text layout.manifestFile),
    ("disable_marker", .text layout.disableMarker),
    ("artifact_extensions", .texts layout.artifactExtensions),
    ("load_native_artifacts", .bool layout.loadNativeArtifacts)]

/-- The policy as JSON. -/
def LifecyclePolicy.toJson (policy : LifecyclePolicy) : Json :=
  .object [
    ("settle_delay_ms", .nat policy.settleDelayMs),
    ("drain_timeout_ms", .nat policy.drainTimeoutMs),
    ("drain_poll_interval_ms", .nat policy.drainPollIntervalMs),
    ("operation_timeout_ms", .nat policy.operationTimeoutMs),
    ("synthetic_fallback", .bool policy.syntheticFallback),
    ("hot_reload", .bool policy.hotReload),
    ("hot_reload_interval_ms", .nat policy.hotReloadIntervalMs)]

/-- The logging settings as JSON. -/
def LogSettings.toJson (s : LogSettings) : Json :=
  .object [
    ("level", .text s.level),
    ("format", .text s.format.name),
    ("file_line", .bool s.fileLine),
    ("module_levels", .object (s.moduleLevels.map fun (name, level) => (name, .text level)))]

/-- The settings as JSON. -/
def Settings.toJson (s : Settings) : Json :=
  .object [
    ("extensions", s.layout.toJson),
    ("lifecycle", s.policy.toJson),
    ("logging", s.logging.toJson)]

end ExtensionHost
