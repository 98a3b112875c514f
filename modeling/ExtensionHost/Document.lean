import ExtensionHost.Json.Basic

/-!
# Documents and typed records

Descriptors, events and settings are read from nodes of several formats. What a
typed reader may ask of a node is the same for all of them; the formats differ
in how strictly they answer. A record is a node with named fields: a field may
have other names, no field may be given twice under any of them, and members of
other names are ignored.
-/

namespace ExtensionHost

/-! ## Nodes -/

/-- What a typed reader may ask of a node. Every question is answered by a value
or by a refusal. -/
class Document (ν : Type) where
  /-- The members of a section, under the texts of their names. -/
  members? : ν → Option (List (String × ν))
  /-- The fields, so many at most, of a record that is written as a list of values
  in order. -/
  positional? : Nat → ν → Option (List ν)
  /-- The items of a list. -/
  items? : ν → Option (List ν)
  /-- A text. -/
  text? : ν → Option String
  /-- A text that may be absent. -/
  optionalText? : ν → Option (Option String)
  /-- An integer that may be negative. -/
  signed? : ν → Option Int
  /-- An integer that may not. -/
  unsigned? : ν → Option Int
  /-- A truth value. -/
  bool? : ν → Option Bool
  /-- One of the given names. -/
  choice? : List String → ν → Option String

/-- An integer within the bounds of a signed number of four bytes. -/
def Document.int32? {ν : Type} [Document ν] (node : ν) : Option Int := do
  let n ← Document.signed? node
  if -2147483648 ≤ n ∧ n ≤ 2147483647 then some n else none

/-- A natural number of at most eight bytes. -/
def Document.nat64? {ν : Type} [Document ν] (node : ν) : Option Nat := do
  let n ← Document.unsigned? node
  if 0 ≤ n ∧ n ≤ 18446744073709551615 then some n.toNat else none

/-- A list of texts. -/
def Document.texts? {ν : Type} [Document ν] (node : ν) : Option (List String) := do
  (← Document.items? node).mapM Document.text?

/-- A table of texts; of several members of one name the last one counts. -/
def Document.textTable? {ν : Type} [Document ν] (node : ν) : Option (List (String × String)) := do
  let entries ← (← Document.members? node).mapM fun (name, value) =>
    (Document.text? value).map (name, ·)
  return entries.foldl (fun table entry => table.filter (·.1 != entry.1) ++ [entry]) []

/-! ## Records -/

/-- The fields of a record that are present, under their first names. -/
structure Record (ν : Type) where
  fields : List (String × ν)

/-- The first name of the field that a member's name stands for. -/
def fieldName? (fields : List (List String)) (name : String) : Option String :=
  (fields.find? (·.contains name)).bind (·.head?)

/-- The members that are fields, in order, under the first names. -/
def recognised {ν : Type} (fields : List (List String)) (members : List (String × ν)) :
    List (String × ν) :=
  members.filterMap fun (name, value) => (fieldName? fields name).map (·, value)

/-- No name occurs twice. -/
def distinctNames {ν : Type} : List (String × ν) → Bool
  | [] => true
  | (name, _) :: rest => !(rest.any (·.1 == name)) && distinctNames rest

/-- The record in a node, given the names of its fields in order. -/
def Record.read? {ν : Type} [Document ν] (fields : List (List String)) (node : ν) :
    Option (Record ν) :=
  match Document.positional? fields.length node with
  | some values => some ⟨(fields.filterMap (·.head?)).zip values⟩
  | none => do
    let present := recognised fields (← Document.members? node)
    if distinctNames present then some ⟨present⟩ else none

/-- A field that has to be there. -/
def Record.required {ν α : Type} (r : Record ν) (name : String) (read : ν → Option α) : Option α :=
  (r.fields.lookup name).bind read

/-- A field with a value for when it is not there. -/
def Record.optional {ν α : Type} (r : Record ν) (name : String) (fallback : α)
    (read : ν → Option α) : Option α :=
  match r.fields.lookup name with
  | some node => read node
  | none => some fallback

/-! ## JSON -/

/-- JSON answers strictly: no value of one kind is taken for another. -/
instance : Document Json where
  members?
    | .object members => some members
    | _ => none
  positional? limit
    | .array items => if items.length ≤ limit then some items else none
    | _ => none
  items?
    | .array items => some items
    | _ => none
  text?
    | .text s => some s
    | _ => none
  optionalText?
    | .null => some none
    | .text s => some (some s)
    | _ => none
  signed?
    | .int n => some n
    | _ => none
  unsigned?
    | .int n => some n
    | _ => none
  bool?
    | .bool b => some b
    | _ => none
  choice? names
    | .text s => if names.contains s then some s else none
    | .object [(s, .null)] => if names.contains s then some s else none
    | _ => none

end ExtensionHost
