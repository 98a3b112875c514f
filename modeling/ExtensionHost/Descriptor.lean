import ExtensionHost.Document
import ExtensionHost.Path
import ExtensionHost.Text.Blank

/-!
# Descriptors

What is known about an extension before it runs: the fields of its manifest and
the folder it was read from. The folder is not part of the manifest, so it is
neither written nor read with the other fields.
-/

namespace ExtensionHost

/-! ## The type -/

/-- The description of one extension. -/
structure Descriptor where
  id : String
  name : String
  version : String
  author : Option String
  priority : Int
  startPriority : Int
  entryPoint : String
  folder : Path
  deriving DecidableEq, Inhabited, Repr

/-- The version of an extension that declares none. -/
def Descriptor.defaultVersion : String := "0.0.0"

/-- A description with nothing but an id, which is also the name. -/
def Descriptor.ofId (id : String) : Descriptor :=
  { id := id
    name := id
    version := defaultVersion
    author := none
    priority := 0
    startPriority := 0
    entryPoint := ""
    folder := ⟨""⟩ }

/-- The description of an extension without a manifest: the id is the entry
point, and the folder is the one of that name below the root. -/
def Descriptor.minimal (id : String) (root : Path) : Descriptor :=
  { Descriptor.ofId id with entryPoint := id, folder := root.joinName id }

/-- Whether there is an entry point to construct an instance from. -/
def Descriptor.hasEntryPoint (d : Descriptor) : Bool :=
  !isBlankText d.entryPoint

/-- The name, or the id where the name is empty. -/
def Descriptor.displayName (d : Descriptor) : String :=
  if d.name.isEmpty then d.id else d.name

/-! ## Fields -/

/-- The names of the fields, in order, each with its other names. -/
def Descriptor.fieldNames : List (List String) :=
  [["id"], ["name"], ["version"], ["author"], ["priority"],
    ["start_priority", "startPriority"], ["entry_point", "entryPoint"]]

/-- The description in a node. Only the id has to be there. -/
def Descriptor.read? {ν : Type} [Document ν] (node : ν) : Option Descriptor := do
  let r ← Record.read? fieldNames node
  return {
    id := ← r.required "id" Document.text?
    name := ← r.optional "name" "" Document.text?
    version := ← r.optional "version" defaultVersion Document.text?
    author := ← r.optional "author" none Document.optionalText?
    priority := ← r.optional "priority" 0 Document.int32?
    startPriority := ← r.optional "start_priority" 0 Document.int32?
    entryPoint := ← r.optional "entry_point" "" Document.text?
    folder := ⟨""⟩ }

/-- The fields as JSON. -/
def Descriptor.toJson (d : Descriptor) : Json :=
  .object [
    ("id", .text d.id),
    ("name", .text d.name),
    ("version", .text d.version),
    ("author", .optText d.author),
    ("priority", .int d.priority),
    ("start_priority", .int d.startPriority),
    ("entry_point", .text d.entryPoint)]

end ExtensionHost
