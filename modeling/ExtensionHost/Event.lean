import ExtensionHost.Descriptor

/-!
# Events

A request to move one extension through its life: what is to change, and the
description of the extension it is about.
-/

namespace ExtensionHost

/-! ## Changes -/

/-- What is to happen to an extension. -/
inductive Change where
  | enable
  | disable
  | update
  | remove
  deriving DecidableEq, Repr

/-- The name of the change. -/
def Change.name : Change → String
  | .enable => "enable"
  | .disable => "disable"
  | .update => "update"
  | .remove => "remove"

/-- All changes. -/
def Change.all : List Change :=
  [.enable, .disable, .update, .remove]

/-- The change with the name. -/
def Change.ofName? (name : String) : Option Change :=
  Change.all.find? (·.name == name)

@[simp] theorem Change.ofName_name (c : Change) : Change.ofName? c.name = some c := by
  cases c <;> rfl

/-! ## Events -/

/-- A change of one extension. The folder is kept beside the description, since
the description loses it when it is written. -/
structure Event where
  change : Change
  descriptor : Descriptor
  folder : Path
  deriving DecidableEq, Repr

/-- The event of a change, with the folder of the description. -/
def Event.of (change : Change) (descriptor : Descriptor) : Event :=
  ⟨change, descriptor, descriptor.folder⟩

/-- The id of the extension. -/
def Event.id (e : Event) : String :=
  e.descriptor.id

/-- The event as JSON. -/
def Event.toJson (e : Event) : Json :=
  .object [
    ("change", .text e.change.name),
    ("descriptor", e.descriptor.toJson),
    ("folder_path", .text e.folder.text)]

/-- A change in a node. -/
def Change.read? {ν : Type} [Document ν] (node : ν) : Option Change := do
  Change.ofName? (← Document.choice? (Change.all.map Change.name) node)

/-- The event in a node. Every field has to be there. -/
def Event.read? {ν : Type} [Document ν] (node : ν) : Option Event := do
  let r ← Record.read? [["change"], ["descriptor"], ["folder_path"]] node
  return {
    change := ← r.required "change" Change.read?
    descriptor := ← r.required "descriptor" Descriptor.read?
    folder := ⟨← r.required "folder_path" Document.text?⟩ }

end ExtensionHost
