/-!
# Paths

A path is its text. It is read as a list of components: separators may be
repeated, a dot between them says nothing, and a path that starts with a
separator is absolute. The operations here are on texts, and never look at what
is stored under a path. Paths that are no texts have no counterpart here.
-/

namespace ExtensionHost

/-- A path, as it was written. -/
structure Path where
  text : String
  deriving DecidableEq, Inhabited, Repr

/-! ## Segments and components -/

/-- The pieces of a text between separators. -/
def splitSegments : List Char → List (List Char)
  | [] => [[]]
  | c :: cs =>
    if c == '/' then [] :: splitSegments cs
    else match splitSegments cs with
      | [] => [[c]]
      | seg :: segs => (c :: seg) :: segs

theorem splitSegments_ne_nil (cs : List Char) : splitSegments cs ≠ [] := by
  cases cs with
  | nil => simp [splitSegments]
  | cons c cs => unfold splitSegments; repeat' split <;> simp

/-- The pieces with separators between them are the text. -/
theorem intercalate_splitSegments (cs : List Char) :
    ['/'].intercalate (splitSegments cs) = cs := by
  induction cs with
  | nil => rfl
  | cons c cs ih =>
    obtain ⟨seg, segs, h⟩ := List.exists_cons_of_ne_nil (splitSegments_ne_nil cs)
    rw [h] at ih
    by_cases hc : c = '/'
    · simp [splitSegments, hc, h, ih]
    · cases segs <;> simp_all [splitSegments]

/-- The pieces of the path between separators. -/
def Path.segments (p : Path) : List String :=
  (splitSegments p.text.toList).map String.ofList

/-- Whether the path has no text. -/
def Path.isEmpty (p : Path) : Bool :=
  p.text.isEmpty

/-- Whether the path starts at the root. -/
def Path.isAbsolute (p : Path) : Bool :=
  p.text.toList.head? == some '/'

/-- A component of a path. -/
inductive Component where
  | root
  | current
  | parent
  | name (s : String)
  deriving DecidableEq, Repr

/-- A segment that says nothing. -/
def isIdleSegment (s : String) : Bool :=
  s == "" || s == "."

/-- The component that a segment in the middle of a path stands for. -/
def segmentComponent? (s : String) : Option Component :=
  if isIdleSegment s then none
  else if s == ".." then some .parent
  else some (.name s)

/-- The components of the path; a dot counts only at the start of a relative one. -/
def Path.components (p : Path) : List Component :=
  let body := p.segments.filterMap segmentComponent?
  if p.isAbsolute then .root :: body
  else if p.segments.head? == some "." then .current :: body
  else body

/-- Whether the path lies at or below another one, by components. -/
def Path.startsWith (p base : Path) : Bool :=
  base.components.isPrefixOf p.components

/-! ## Names -/

/-- The last component, if it is a name. -/
def Path.fileName? (p : Path) : Option String :=
  match p.components.getLast? with
  | some (.name s) => some s
  | _ => none

/-- A name cut at its last dot, if it has one that is not its first character. -/
def splitExtension (name : String) : Option (String × String) :=
  let reversed := name.toList.reverse
  let ending := reversed.takeWhile (· != '.')
  match reversed.drop ending.length with
  | [] => none
  | _ :: stem =>
    if stem.isEmpty then none
    else some (String.ofList stem.reverse, String.ofList ending.reverse)

/-- What follows the last dot of the file name. -/
def Path.extension? (p : Path) : Option String :=
  match p.fileName? with
  | some name => (splitExtension name).map (·.2)
  | none => none

/-! ## Building paths -/

/-- The path below another one. An absolute path replaces what it is joined to. -/
def Path.join (base p : Path) : Path :=
  if p.isAbsolute || base.isEmpty then p
  else if base.text.toList.getLast? == some '/' then ⟨base.text ++ p.text⟩
  else ⟨base.text ++ "/" ++ p.text⟩

/-- The path below another one. -/
def Path.joinName (base : Path) (name : String) : Path :=
  base.join ⟨name⟩

/-- The segments without the idle ones at the end. -/
def trimIdle (segments : List String) : List String :=
  (segments.reverse.dropWhile isIdleSegment).reverse

/-- The text in front of the file name, without what says nothing at its end. A
leading dot or separator stays. -/
def Path.beforeFileName (p : Path) : Path :=
  match p.segments with
  | first :: rest =>
    let kept := trimIdle (trimIdle rest).dropLast
    if (trimIdle rest).isEmpty then ⟨""⟩
    else if kept.isEmpty && p.isAbsolute then ⟨"/"⟩
    else ⟨"/".intercalate (first :: kept)⟩
  | [] => ⟨""⟩

/-- The path with another file name, or with the name added where there is none. -/
def Path.withFileName (p : Path) (name : String) : Path :=
  match p.fileName? with
  | some _ => p.beforeFileName.joinName name
  | none => p.joinName name

@[simp] theorem Path.join_absolute (base p : Path) (h : p.isAbsolute = true) :
    base.join p = p := by
  simp [Path.join, h]

end ExtensionHost
