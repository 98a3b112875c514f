import ExtensionHost.FileTree
import ExtensionHost.Logging
import ExtensionHost.Settings.Layer.Conversion
import ExtensionHost.Settings.Layer.Format
import ExtensionHost.Yaml.Node

/-!
# Sources of settings

Settings come from a YAML file alone, or from a file of one of two formats under
variables of the environment. A variable stands for a setting if its name starts
with the mark of the program, in any case, and goes on with the way to the
setting.
-/

namespace ExtensionHost

/-! ## Layers -/

/-- What the names of variables start with that stand for settings. -/
def variableMark : List Char := "omnihost__".toList

/-- The steps of a variable's name are separated by two underscores. -/
def dotted : List Char → List Char
  | '_' :: '_' :: cs => '.' :: dotted cs
  | c :: cs => c :: dotted cs
  | [] => []

/-- The way to the setting that a variable stands for. -/
def variableName? (name : String) : Option String :=
  let cs := (lowerText name).toList
  if variableMark.isPrefixOf cs then some (String.ofList (dotted (cs.drop variableMark.length)))
  else none

/-- The value of a variable. -/
def settingOfVariable (s : String) : Setting :=
  if lowerText s == "true" then .bool true
  else if lowerText s == "false" then .bool false
  else match parseLong? s.toList with
    | some n => .int n
    | none => match Double.parse? s.toList with
      | some x => .decimal x
      | none => .text s

/-- The settings that variables stand for. -/
def variableEntries (environment : List (String × String)) : List (String × Setting) :=
  environment.filterMap fun (name, value) =>
    (variableName? name).map (·, settingOfVariable value)

/-- The endings of files of settings. -/
def settingsEndings : List (String × SettingsFormat) :=
  [("yaml", .yaml), ("yml", .yaml), ("json", .json)]

/-- The file that a path names: the one at the path, or else the first one whose
name is the path's with an ending added. -/
def settingsFile? (tree : FileTree) (p : Path) : Option (Path × SettingsFormat) := do
  if tree.isFile p then
    let ending ← p.extension?
    let format ← settingsEndings.lookup ending
    return (p, format)
  else
    let name ← p.fileName?
    let candidates := settingsEndings.map fun (ending, format) =>
      (p.beforeFileName.joinName (name ++ "." ++ ending), format)
    candidates.find? fun (p, _) => tree.isFile p

/-- The entries of the file that a path names. A file that is not there, or is not
a text, has none. -/
def fileEntries (tree : FileTree) (p : Path) : Except ConfigError (List (String × Setting)) :=
  match settingsFile? tree p with
  | none => .ok []
  | some (file, format) =>
    match tree.readText? file with
    | none => .ok []
    | some s =>
      match Setting.parse? s format with
      | some (.table entries) => .ok entries
      | _ => .error (.loadFailed p.text foreignDetail)

/-- The settings in a file and in the environment, which takes precedence. -/
def Settings.readLayers (tree : FileTree) (p : Path) (environment : List (String × String)) :
    Except ConfigError Settings := do
  let file ← fileEntries tree p
  let layers := ((Setting.table []).layer file).layer (variableEntries environment)
  match Settings.read? layers with
  | some s => .ok s
  | none => .error (.invalidFormat foreignDetail)

/-! ## Single files -/

/-- The settings in a YAML text. -/
def Settings.parseYaml (s : String) : Except ConfigError Settings :=
  match (Yaml.parse s).bind Settings.read? with
  | some settings => .ok settings
  | none => .error (.invalidFormat foreignDetail)

/-- The settings in a YAML file. -/
def Settings.inFile (tree : FileTree) (p : Path) : Except ConfigError Settings :=
  if !tree.exists p then .error (.fileNotFound p.text)
  else match tree.readText? p with
    | some s => Settings.parseYaml s
    | none => .error (.loadFailed p.text foreignDetail)

end ExtensionHost
