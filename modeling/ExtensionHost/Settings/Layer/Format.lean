import ExtensionHost.Json.Extent
import ExtensionHost.Json.Reader
import ExtensionHost.Settings.Layer.Basic
import ExtensionHost.Settings.Layer.Yaml.Node

/-!
# Layers in YAML and JSON

The values that texts of the two formats stand for. Integers that need more than eight
bytes are decimal numbers in JSON, and nesting is limited there.
-/

namespace ExtensionHost

/-! ## JSON -/

mutual

/-- The value of a JSON value. -/
def Setting.ofJson? : Json → Option Setting
  | .null => some .null
  | .bool b => some (.bool b)
  | .int n =>
    if longMin ≤ n ∧ n ≤ longMax then some (.int n)
    else (DecimalLiteral.ofInt n).stepwise?.map .decimal
  | .decimal l => l.stepwise?.map .decimal
  | .text s => some (.text s)
  | .unpairedText | .unnamedObject _ => none
  | .array items => (Setting.itemsOfJson? items).map .list
  | .object members => (Setting.membersOfJson? members).map .table

/-- The values of the items of an array. -/
def Setting.itemsOfJson? : List Json → Option (List Setting)
  | [] => some []
  | item :: rest => do
    let item ← Setting.ofJson? item
    let rest ← Setting.itemsOfJson? rest
    return item :: rest

/-- The values of the members of an object. Of several members of one name the last
one counts. -/
def Setting.membersOfJson? : List (String × Json) → Option (List (String × Setting))
  | [] => some []
  | (name, value) :: rest => do
    let value ← Setting.ofJson? value
    let entries ← Setting.membersOfJson? rest
    return if rest.any (·.1 == name) then entries else (name, value) :: entries

end

/-! ## Texts -/

/-- How a layer is written. -/
inductive SettingsFormat where
  | yaml
  | json
  deriving DecidableEq, Repr

/-- The layer in a JSON text. -/
def Setting.parseJson? (s : String) : Option Setting :=
  (Json.parse s).bind fun v => if v.depth ≤ depthLimit then Setting.ofJson? v else none

/-- The layer in a text of a format. -/
def Setting.parse? (s : String) : SettingsFormat → Option Setting
  | .yaml => (LayerYaml.parse s).bind LayerYaml.Node.setting?
  | .json => Setting.parseJson? s

end ExtensionHost
