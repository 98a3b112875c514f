import ExtensionHost.Digest
import ExtensionHost.Discovery
import ExtensionHost.Extension.Context

/-!
# Loading

The context of an extension is built from its folder. Exactly one artifact there
has the id in its name; it is the primary one, and the others follow in the order
of their names. Artifacts that are native libraries are opened, and the primary
one brings its factories along.
-/

namespace ExtensionHost

/-! ## Libraries -/

/-- A native library: the interface version it declares, and the factories it
registers, each only if the library has a function that tells. -/
structure Library where
  abiVersion : Option Nat
  factories : Option (List Factory)

/-- The interface version of the host. -/
def hostAbiVersion : Nat := 1

/-- The file endings of native libraries. -/
def libraryEndings : List String := ["so", "dylib", "dll"]

/-- Whether a path has the ending of a native library. -/
def isLibrary (p : Path) : Bool :=
  match p.extension? with
  | some ending => libraryEndings.contains ending
  | none => false

/-! ## Artifacts -/

/-- Whether a text contains another one. -/
def containsText (s part : String) : Bool :=
  containsBlock s.toList part.toList

/-- A list without the later occurrences of each element. -/
def keepFirst {α : Type} [DecidableEq α] : List α → List α
  | [] => []
  | x :: xs => x :: (keepFirst xs).filter (fun y => decide (y ≠ x))

/-- The names of the artifact files among those in a folder. -/
def FolderLayout.artifactNames (layout : FolderLayout) (tree : FileTree) (folder : Path)
    (names : List String) : List String :=
  names.filter fun name =>
    tree.isFile (folder.joinName name) && layout.isArtifact (folder.joinName name)

/-- Where a path leads, or the path itself where it leads nowhere. -/
def FileTree.settled (tree : FileTree) (p : Path) : Path :=
  (tree.canonical? p).getD p

/-- The primary artifact of a folder, and all of them without duplicates. -/
structure Artifacts where
  primary : Path
  all : List Path
  deriving DecidableEq, Repr

/-- The artifacts among files in order: the one that has the id in its name is the primary one,
and comes first. -/
def gatherArtifacts (tree : FileTree) (id : String) (folder : Path) (files : List String) :
    Except LoadError Artifacts :=
  match files.filter (containsText · id) with
  | [] => .error (.primaryMissing id folder.text)
  | [name] =>
    let others := files.filter fun other => !containsText other id
    .ok {
      primary := folder.joinName name
      all := keepFirst ((name :: others).map fun n => tree.settled (folder.joinName n)) }
  | several =>
    .error (.primaryAmbiguous id folder.text (several.map fun n => (folder.joinName n).text))

/-- The artifacts of an extension in its folder, in the order of their names. -/
def FolderLayout.artifacts (layout : FolderLayout) (tree : FileTree) (id : String)
    (folder : Path) : Except LoadError Artifacts :=
  match tree.list? folder with
  | none => .error (.artifactUnreadable id folder.text foreignDetail)
  | some names =>
    gatherArtifacts tree id folder
      ((layout.artifactNames tree folder names).mergeSort fun a b => !(b < a))

/-! ## Opening libraries -/

/-- What is asked of native code. -/
inductive NativeCall where
  | opens (p : Path)
  | asksVersion (p : Path)
  | registers (p : Path)
  deriving DecidableEq, Repr

/-- What opening libraries has come to: the calls so far, the libraries that are kept open,
the factories they have registered, and what was noticed. -/
structure LibraryLoad where
  calls : List NativeCall
  kept : List Path
  factories : FactoryTable
  notices : List Notice

/-- Nothing has been opened. -/
def LibraryLoad.start : LibraryLoad :=
  ⟨[], [], .empty, []⟩

/-- A step of opening libraries. What was done before a failure stays done. -/
abbrev Opening (α : Type) := ExceptT LoadError (StateM LibraryLoad) α

/-- What a step comes to. -/
def Opening.from {α : Type} (x : Opening α) (s : LibraryLoad) : Except LoadError α × LibraryLoad :=
  (x.run.run s).run

section Steps

variable {α β : Type} {s : LibraryLoad}

@[simp] theorem Opening.from_pure (a : α) : (pure a : Opening α).from s = (.ok a, s) := rfl

@[simp] theorem Opening.from_throw (e : LoadError) :
    (throw e : Opening α).from s = (.error e, s) := rfl

theorem Opening.from_bind (x : Opening α) (f : α → Opening β) :
    (x >>= f).from s =
      match x.from s with
      | (.ok a, s) => (f a).from s
      | (.error e, s) => (.error e, s) := by
  have hbind : (x >>= f).from s = (ExceptT.bindCont f (x.from s).1).run (x.from s).2 := rfl
  rw [hbind]
  cases x.from s with
  | mk outcome s' => cases outcome <;> rfl

@[simp] theorem Opening.from_modify (f : LibraryLoad → LibraryLoad) :
    (modify f : Opening Unit).from s = (.ok (), f s) := rfl

end Steps

/-- Calls native code. -/
def Opening.call (c : NativeCall) : Opening Unit :=
  modify fun s => { s with calls := s.calls ++ [c] }

/-- Notices something. -/
def Opening.notice (n : Notice) : Opening Unit :=
  modify fun s => { s with notices := s.notices ++ [n] }

/-- Puts factories into the table. -/
def Opening.insert (factories : List Factory) : Opening Unit :=
  modify fun s =>
    let (table, replaced) := s.factories.insertAll factories
    { s with factories := table, notices := s.notices ++ replaced }

/-- Keeps a library open. -/
def Opening.keep (p : Path) : Opening Unit :=
  modify fun s => { s with kept := s.kept ++ [p] }

/-- Asks a library for its interface version, which has to be that of the host. One that does
not tell is only noticed. -/
def Library.askVersion (l : Library) (id : String) (p : Path) : Opening Unit :=
  match l.abiVersion with
  | none => Opening.notice (.abiVersionMissing id p)
  | some version => do
    Opening.call (.asksVersion p)
    if version ≠ hostAbiVersion then
      throw (.libraryFailed id p.text ("ABI version " ++ natText version ++
        " does not match host version " ++ natText hostAbiVersion))

/-- Lets a library register its factories. -/
def Library.register (l : Library) (id : String) (p : Path) : Opening Unit :=
  match l.factories with
  | none => throw (.libraryFailed id p.text foreignDetail)
  | some factories => do
    Opening.call (.registers p)
    Opening.insert factories

/-- Brings in the factories of a library, if it is the primary artifact. -/
def Library.bringIn (l : Library) (id : String) (isPrimary : Bool) (p : Path) : Opening Unit := do
  if isPrimary then
    l.askVersion id p
    l.register id p

/-- Opens an artifact and keeps it open. One that is no library is passed over. -/
def openArtifact (libraries : Path → Option Library) (id : String) (isPrimary : Bool) (p : Path) :
    Opening Unit := do
  if isLibrary p then
    Opening.call (.opens p)
    match libraries p with
    | none => throw (.libraryFailed id p.text foreignDetail)
    | some l =>
      l.bringIn id isPrimary p
      Opening.keep p

/-- Opens artifacts, in order. Only the first of them can be the primary one. -/
def openArtifacts (libraries : Path → Option Library) (id : String) :
    Bool → List Path → Opening Unit
  | _, [] => pure ()
  | isPrimary, p :: ps => do
    openArtifact libraries id isPrimary p
    openArtifacts libraries id false ps

/-- Opens the libraries among the artifacts of an extension. -/
def loadLibraries (libraries : Path → Option Library) (id : String) (artifacts : List Path) :
    Except LoadError Unit × LibraryLoad :=
  (openArtifacts libraries id true artifacts).from .start

/-! ## Contexts -/

/-- The context of an extension with its artifacts, before libraries are opened. -/
def FolderLayout.bareContext (layout : FolderLayout) (tree : FileTree) (d : Descriptor) :
    Except LoadError Context := do
  let folder ← match layout.locate tree d.id with
    | .ok folder => .ok folder
    | .error e => .error (LoadError.discovery d.id e)
  let artifacts ← layout.artifacts tree d.id folder
  let bytes ← match tree.read? artifacts.primary with
    | some bytes => .ok bytes
    | none => .error (.artifactUnreadable d.id artifacts.primary.text foreignDetail)
  return { Context.of d.id folder artifacts.all with
    fingerprint := some (fingerprint bytes)
    sourceVersion := some d.version }

/-- The context of an extension, and what is noticed while it is built. -/
def FolderLayout.load (layout : FolderLayout) (tree : FileTree)
    (libraries : Path → Option Library) (d : Descriptor) :
    Except LoadError Context × List Notice :=
  match layout.bareContext tree d with
  | .error e => (.error e, [])
  | .ok context =>
    if layout.loadNativeArtifacts then
      match loadLibraries libraries d.id context.artifacts with
      | (.error e, s) => (.error e, s.notices)
      | (.ok (), s) =>
        (.ok { context with factories := s.factories, libraries := s.kept }, s.notices)
    else (.ok context, [])

end ExtensionHost
