import ExtensionHost.Path

/-!
# File trees

A store of files, folders and links, held in memory. Its places are grouped in
volumes: relative paths start in the working volume, absolute ones in the outermost
one. Above the top of the working volume there are folders of which nothing else is
known. Every question about a path follows links, and none about a place that does
not exist has an answer. Every name is a text: there are no entries here whose names
cannot be read as one, and which a scan would pass over.
-/

namespace ExtensionHost

/-! ## Places and entries -/

/-- A place in the store: a volume and the names that lead down from its top. -/
structure Place where
  volume : String
  names : List String
  deriving DecidableEq, Inhabited, Repr

/-- The place below with the name. -/
def Place.child (place : Place) (name : String) : Place :=
  { place with names := place.names ++ [name] }

/-- The top of the outermost volume. -/
def Place.root : Place := ⟨"", []⟩

/-- The folders above the top of a volume. -/
def Place.outside : Place := ⟨"..", []⟩

/-- The place above. Nothing lies above the outermost top. -/
def Place.parent (place : Place) : Place :=
  if !place.names.isEmpty then { place with names := place.names.dropLast }
  else if place = Place.root then place
  else Place.outside

/-- The place as an absolute path. -/
def Place.path (place : Place) : Path :=
  if place = Place.root then ⟨"/"⟩ else ⟨"/".intercalate (place.volume :: place.names)⟩

/-- Where a link leads: along a path from its own folder, or to a place. -/
inductive LinkTarget where
  | path (p : Path)
  | place (target : Place)
  deriving DecidableEq, Repr

/-- What is stored at a place. A device is no file, but can be read, and is empty. -/
inductive Entry where
  | file (bytes : List UInt8)
  | folder
  | device
  | link (target : LinkTarget)
  deriving Repr

/-- The entries of a store, each at its place. The top of every volume is a
folder without an entry of its own. -/
structure FileTree where
  working : String
  entries : List (Place × Entry)

/-- The store without entries. -/
def FileTree.empty (working : String) : FileTree :=
  ⟨working, []⟩

/-- What is stored at a place, without following links. -/
def FileTree.entry? (tree : FileTree) (place : Place) : Option Entry :=
  if place.names.isEmpty then some .folder else tree.entries.lookup place

/-! ## Following paths -/

/-- Whether a place holds a folder. -/
def FileTree.isFolderAt (tree : FileTree) (place : Place) : Bool :=
  match tree.entry? place with
  | some .folder => true
  | _ => false

/-- Follows segments from a place. A folder has to be left before the next
segment counts, and no more than `links` links are followed on the way. -/
def FileTree.follow (tree : FileTree) : Nat → Nat → Place → List String → Option Place
  | 0, _, _, _ => none
  | _ + 1, _, place, [] => some place
  | fuel + 1, links, place, segment :: rest =>
    if !tree.isFolderAt place then none
    else if isIdleSegment segment then tree.follow fuel links place rest
    else if segment == ".." then tree.follow fuel links place.parent rest
    else
      let next := place.child segment
      match tree.entry? next with
      | none => none
      | some (.file _) | some .folder | some .device => tree.follow fuel links next rest
      | some (.link target) =>
        match links, target with
        | 0, _ => none
        | links + 1, .path p =>
          if p.isEmpty then none
          else
            tree.follow fuel links (if p.isAbsolute then Place.root else place)
              (p.segments ++ rest)
        | links + 1, .place other =>
          tree.follow fuel links ⟨other.volume, []⟩ (other.names ++ rest)

/-- Links followed at most on the way to one place. -/
def linkLimit : Nat := 40

/-- The bytes that a path may take up. -/
def pathLimit : Nat := 4095

/-- Segments followed at most on the way to one place: those of the path and of every
link on the way. -/
def segmentLimit : Nat := (linkLimit + 1) * (pathLimit + 2)

/-- The bytes that a name may take up. -/
def nameLimit : Nat := 255

/-- Whether a path can be followed: it has a text, without zeros, and neither it nor a
name in it is too long. -/
def Path.isFollowable (p : Path) : Bool :=
  !p.isEmpty && p.text.utf8ByteSize ≤ pathLimit &&
    p.text.toList.all (·.toNat != 0) && p.segments.all (·.utf8ByteSize ≤ nameLimit)

/-- The place that a path leads to. -/
def FileTree.resolve? (tree : FileTree) (p : Path) : Option Place :=
  if p.isFollowable then
    tree.follow segmentLimit linkLimit (if p.isAbsolute then Place.root else ⟨tree.working, []⟩)
      p.segments
  else none

/-- What a path leads to. -/
def FileTree.get? (tree : FileTree) (p : Path) : Option Entry :=
  (tree.resolve? p).bind tree.entry?

/-! ## Questions -/

/-- Whether a path leads to a place. -/
def FileTree.exists (tree : FileTree) (p : Path) : Bool :=
  (tree.get? p).isSome

/-- Whether a path leads to a folder. -/
def FileTree.isFolder (tree : FileTree) (p : Path) : Bool :=
  match tree.get? p with
  | some .folder => true
  | _ => false

/-- Whether a path leads to a file. -/
def FileTree.isFile (tree : FileTree) (p : Path) : Bool :=
  match tree.get? p with
  | some (.file _) => true
  | _ => false

/-- The bytes of the file or device that a path leads to. -/
def FileTree.read? (tree : FileTree) (p : Path) : Option (List UInt8) :=
  match tree.get? p with
  | some (.file bytes) => some bytes
  | some .device => some []
  | _ => none

/-- The text of the file that a path leads to, if its bytes are one. -/
def FileTree.readText? (tree : FileTree) (p : Path) : Option String :=
  (tree.read? p).bind fun bytes => String.fromUTF8? ⟨bytes.toArray⟩

/-- The names directly below a place. -/
def FileTree.namesAt (tree : FileTree) (place : Place) : List String :=
  tree.entries.filterMap fun (other, _) =>
    match other.names.getLast? with
    | some name => if place.child name = other then some name else none
    | none => none

/-- The names in the folder that a path leads to, the newest one first. -/
def FileTree.list? (tree : FileTree) (p : Path) : Option (List String) :=
  match tree.resolve? p with
  | some place => if tree.isFolderAt place then some (tree.namesAt place).reverse else none
  | none => none

/-- The path without links, dots and repeated separators. -/
def FileTree.canonical? (tree : FileTree) (p : Path) : Option Path :=
  (tree.resolve? p).map Place.path

/-! ## Changes -/

/-- Puts an entry at a place. -/
def FileTree.put (tree : FileTree) (place : Place) (entry : Entry) : FileTree :=
  { tree with entries := tree.entries.filter (fun e => decide (e.1 ≠ place)) ++ [(place, entry)] }

/-- The segments of a path that lead somewhere. -/
def Path.steps (p : Path) : List String :=
  p.segments.filter fun s => !isIdleSegment s

/-- Goes down from a place, following links, and makes a folder wherever there is
nothing. Gives the tree with the folders, and the place below. -/
def FileTree.enter (tree : FileTree) (place : Place) : List String → FileTree × Place
  | [] => (tree, place)
  | name :: rest =>
    match tree.follow segmentLimit linkLimit place [name] with
    | some next => tree.enter next rest
    | none => (tree.put (place.child name) .folder).enter (place.child name) rest

/-- Puts an entry at a path, with the folders above it. A folder that is there
already stays as it is; a file or a link takes the place of what was there. -/
def FileTree.write (tree : FileTree) (p : Path) (entry : Entry) : FileTree :=
  let top : Place := ⟨tree.working, []⟩
  match entry, p.steps.getLast? with
  | .folder, _ => (tree.enter top p.steps).1
  | entry, some name =>
    let (tree, parent) := tree.enter top p.steps.dropLast
    tree.put (parent.child name) entry
  | _, none => tree

/-- The tree without a place and everything below it. -/
def FileTree.erase (tree : FileTree) (place : Place) : FileTree :=
  { tree with
    entries := tree.entries.filter fun e =>
      !(e.1.volume == place.volume && place.names.isPrefixOf e.1.names) }

/-- Takes away what is at a path, with everything below it. A link is taken away
itself, and not what it leads to. -/
def FileTree.delete (tree : FileTree) (p : Path) : FileTree :=
  match p.steps.getLast? with
  | none => tree
  | some name =>
    match tree.follow segmentLimit linkLimit ⟨tree.working, []⟩ p.steps.dropLast with
    | some parent => tree.erase (parent.child name)
    | none => tree

end ExtensionHost
