import ExtensionHost.Extension.Factory

/-!
# Contexts

What an extension was loaded from, kept apart from every other extension: its
folder and artifacts, and the factories that its own libraries brought along.
Entry points are looked up there first, and in the table of the host after that.
-/

namespace ExtensionHost

/-- The context of one extension. The first artifact is the primary one. -/
structure Context where
  extensionId : String
  folder : Path
  artifacts : List Path
  fingerprint : Option String
  sourceVersion : Option String
  factories : FactoryTable
  libraries : List Path

/-- A context without factories and libraries. -/
def Context.of (id : String) (folder : Path) (artifacts : List Path) : Context :=
  { extensionId := id
    folder := folder
    artifacts := artifacts
    fingerprint := none
    sourceVersion := none
    factories := .empty
    libraries := [] }

/-- The primary artifact. -/
def Context.primary? (c : Context) : Option Path :=
  c.artifacts.head?

/-- The artifacts other than the primary one. -/
def Context.others (c : Context) : List Path :=
  c.artifacts.drop 1

/-- The factory at an entry point. -/
def Context.resolve? (c : Context) (host : FactoryTable) (entryPoint : String) : Option Factory :=
  match c.factories.get? entryPoint with
  | some f => some f
  | none => host.get? entryPoint

/-- An optional text with the name of its case. -/
def optionText : Option String → String
  | some s => "Some(" ++ quoted s ++ ")"
  | none => "None"

/-- The context with the names of its fields. -/
def Context.debug (c : Context) : String :=
  recordText "IsolationContext" [
    ("extension_id", quoted c.extensionId),
    ("folder", quoted c.folder.text),
    ("artifacts", quotedList (c.artifacts.map Path.text)),
    ("fingerprint", optionText c.fingerprint),
    ("local", c.factories.debug),
    ("libraries", natText c.libraries.length)]

end ExtensionHost
