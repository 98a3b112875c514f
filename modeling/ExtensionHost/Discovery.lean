import ExtensionHost.FileTree
import ExtensionHost.Logging
import ExtensionHost.Notice
import ExtensionHost.Yaml.Node

/-!
# Discovery

Which extensions there are. Every folder in the main root with a manifest that
names the folder is one; a marker in the folder disables it. A single extension
is looked for in the three roots, in order.
-/

namespace ExtensionHost

/-! ## Folders -/

/-- The first folder with the name in one of the roots. -/
def FolderLayout.locate (layout : FolderLayout) (tree : FileTree) (id : String) :
    Except DiscoveryError Path :=
  match (layout.searchRoots.map (·.joinName id)).find? tree.isFolder with
  | some folder => .ok folder
  | none => .error (.folderNotFound id (", ".intercalate (layout.searchRoots.map Path.text)))

/-- Whether the marker lies in the folder. -/
def FolderLayout.isDisabled (layout : FolderLayout) (tree : FileTree) (folder : Path) : Bool :=
  tree.exists (folder.joinName layout.disableMarker)

/-! ## Manifests -/

/-- The description in the text of a manifest. -/
def Descriptor.parseYaml? (text : String) : Option Descriptor :=
  (Yaml.parse text).bind Descriptor.read?

/-- The description that a manifest gives for the folder it lies in. -/
def Descriptor.inFolder (d : Descriptor) (folder : Path) : Descriptor :=
  { d with name := if d.name.isEmpty then d.id else d.name, folder := folder }

/-- The description in the manifest of a folder. The id has to be there, and not
blank. -/
def FolderLayout.readManifest (layout : FolderLayout) (tree : FileTree) (folder : Path) :
    Except DiscoveryError Descriptor :=
  let file := folder.joinName layout.manifestFile
  if !tree.isFile file then .error (.manifestNotFound folder.text)
  else
    match (tree.readText? file).bind Descriptor.parseYaml? with
    | none => .error (.malformedManifest folder.text foreignDetail)
    | some d =>
      if isBlankText d.id then .error (.malformedManifest folder.text "manifest id is empty")
      else .ok (d.inFolder folder)

/-- The description in the manifest of a folder, which has to be named by the id. -/
def FolderLayout.readFolder (layout : FolderLayout) (tree : FileTree) (folder : Path) :
    Except DiscoveryError Descriptor := do
  let d ← layout.readManifest tree folder
  let name := folder.fileName?.getD ""
  if name = d.id then return d else throw (.idMismatch name d.id)

/-- The description of the extension with the id. -/
def FolderLayout.descriptorOf (layout : FolderLayout) (tree : FileTree) (id : String) :
    Except DiscoveryError Descriptor := do
  layout.readFolder tree (← layout.locate tree id)

/-! ## Scanning -/

/-- The folders directly below a root. -/
def foldersBelow (tree : FileTree) (root : Path) (names : List String) : List Path :=
  (names.map root.joinName).filter tree.isFolder

/-- What a scan says of one folder. -/
def FolderLayout.scanFolder (layout : FolderLayout) (tree : FileTree) (folder : Path) :
    Except Notice Event :=
  match layout.readFolder tree folder with
  | .error e => .error (.folderSkipped folder e)
  | .ok d => .ok (.of (if layout.isDisabled tree folder then .disable else .enable) d)

/-- The events of a list of folders, and what is noticed on the way. -/
def FolderLayout.scanFolders (layout : FolderLayout) (tree : FileTree) :
    List Path → List Event × List Notice
  | [] => ([], [])
  | folder :: rest =>
    let (events, notices) := layout.scanFolders tree rest
    match layout.scanFolder tree folder with
    | .ok event => (event :: events, notices)
    | .error notice => (events, notice :: notices)

/-- The events of the extensions below a root, the newest folder first. -/
def FolderLayout.scanRoot (layout : FolderLayout) (tree : FileTree) (root : Path) :
    List Event × List Notice :=
  match tree.list? root with
  | none => ([], [.scanSkipped (.rootUnreadable root.text foreignDetail)])
  | some names => layout.scanFolders tree (foldersBelow tree root names)

/-- The events of the extensions in the main root. -/
def FolderLayout.scan (layout : FolderLayout) (tree : FileTree) : List Event × List Notice :=
  layout.scanRoot tree layout.root

end ExtensionHost
