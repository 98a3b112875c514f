import Mathlib.Data.List.DropRight
import Mathlib.Data.List.Nodup
import ExtensionHost.Proofs.Scan

/-!
# Where the roots lie

The two other roots are the main one with another last name, so they lie beside it, and what is
scanned below the main root has nothing to do with them. A root that has no name to change has
them in it instead.
-/

namespace ExtensionHost

variable {p q root other : Path} {name ending : String} {tree : FileTree}

/-! ## Paths of segments -/

/-- A text made of pieces is cut into these pieces. -/
theorem splitSegments_intercalate {segs : List (List Char)} (hne : segs ≠ [])
    (hplain : ∀ seg ∈ segs, '/' ∉ seg) : splitSegments (['/'].intercalate segs) = segs := by
  induction segs with
  | nil => exact absurd rfl hne
  | cons seg rest ih =>
    have hseg : splitSegments seg = [seg] :=
      splitSegments_of_not_mem (hplain seg List.mem_cons_self)
    cases rest with
    | nil => simpa using hseg
    | cons next rest =>
      have hrest := ih (List.cons_ne_nil _ _) fun s hs => hplain s (List.mem_cons_of_mem _ hs)
      rw [List.intercalate_cons_cons, List.append_assoc, List.singleton_append,
        splitSegments_append_separator, hseg, hrest, List.singleton_append]

theorem Path.segments_intercalate {segs : List String} (hne : segs ≠ [])
    (hplain : ∀ s ∈ segs, '/' ∉ s.toList) : (Path.mk ("/".intercalate segs)).segments = segs := by
  have hsplit : splitSegments (['/'].intercalate (segs.map String.toList)) =
      segs.map String.toList :=
    splitSegments_intercalate (by simpa using hne) (by simpa using hplain)
  rw [segments, String.toList_intercalate]
  simpa using congrArg (List.map String.ofList) hsplit

/-- The segments of a path are plain. -/
theorem Path.not_mem_of_mem_segments {s : String} (hs : s ∈ p.segments) : '/' ∉ s.toList := by
  obtain ⟨cs, hcs, rfl⟩ := List.mem_map.mp hs
  simpa using not_mem_of_mem_splitSegments hcs

/-- What a path starts with, by its segments: the root, or the folder it is taken from. -/
def leading : List String → List Component
  | first :: rest =>
    if first = "" ∧ rest ≠ [] then [.root] else if first = "." then [.current] else []
  | [] => []

theorem Path.isAbsolute_iff : p.isAbsolute = true ↔
    ∃ rest, rest ≠ [] ∧ p.segments = "" :: rest := by
  rw [isAbsolute, segments]
  cases p.text.toList with
  | nil => simp [splitSegments]
  | cons c cs =>
    obtain ⟨seg, segs, hsegs⟩ := List.exists_cons_of_ne_nil (splitSegments_ne_nil cs)
    by_cases hc : c = '/' <;> simp [splitSegments, hc, hsegs]

theorem Path.segments_ne_nil (p : Path) : p.segments ≠ [] := by
  simpa [segments] using splitSegments_ne_nil p.text.toList

theorem Path.isEmpty_iff : p.isEmpty = true ↔ p.segments = [""] := by
  rw [isEmpty, String.isEmpty_iff, segments]
  constructor
  · intro htext
    simp [htext, splitSegments]
  · intro hsegments
    have htext := congrArg (['/'].intercalate ·) (congrArg (List.map String.toList) hsegments)
    simpa [intercalate_splitSegments] using htext

/-- The components of a path are those of its segments behind what it starts with. -/
theorem Path.components_eq (p : Path) :
    p.components = leading p.segments ++ p.segments.filterMap segmentComponent? := by
  unfold components
  dsimp only
  split
  next habsolute =>
    obtain ⟨rest, hrest, hsegments⟩ := isAbsolute_iff.mp habsolute
    simp [leading, hsegments, hrest]
  next habsolute =>
    obtain ⟨first, rest, hsegments⟩ := List.exists_cons_of_ne_nil p.segments_ne_nil
    have hroot : ¬ (first = "" ∧ rest ≠ []) := fun ⟨hfirst, hrest⟩ =>
      habsolute (isAbsolute_iff.mpr ⟨rest, hrest, hfirst ▸ hsegments⟩)
    by_cases hdot : first = "." <;> simp [leading, hsegments, hroot, hdot]

/-- Only the empty path has no components. -/
theorem Path.components_eq_nil_iff : p.components = [] ↔ p = ⟨""⟩ := by
  constructor
  · intro hnone
    obtain ⟨first, rest, hsegments⟩ := List.exists_cons_of_ne_nil p.segments_ne_nil
    rw [components_eq, hsegments, List.append_eq_nil_iff, leading] at hnone
    obtain ⟨hlead, hbody⟩ := hnone
    have hfirst : first = "" := by
      have hidle := List.filterMap_eq_nil_iff.mp hbody first List.mem_cons_self
      by_cases hdot : first = "."
      · simp [hdot] at hlead
      · by_contra hsome
        unfold segmentComponent? at hidle
        split at hidle
        next h => simp [isIdleSegment, hsome, hdot] at h
        next => split at hidle <;> cases hidle
    have hrest : rest = [] := by
      by_contra hrest
      simp [hfirst, hrest] at hlead
    have hempty := isEmpty_iff.mpr (hfirst ▸ hrest ▸ hsegments)
    exact congrArg Path.mk (String.isEmpty_iff.mp hempty)
  · rintro rfl
    rfl

/-- A name is neither the text of no path nor a dot. -/
theorem ne_of_isName (hname : isName name = true) : name ≠ "" ∧ name ≠ "." ∧ name ≠ ".." := by
  obtain ⟨hidle, hup⟩ := segment_of_isName hname
  simpa [isIdleSegment, and_assoc] using And.intro hidle hup

theorem filterMap_concat_name (segs : List String) (hname : isName name = true) :
    (segs ++ [name]).filterMap segmentComponent? =
      segs.filterMap segmentComponent? ++ [.name name] := by
  simp [List.filterMap_append, (isName_segments hname).1]

theorem filterMap_concat_idle {s : String} (segs : List String) (hs : isIdleSegment s = true) :
    (segs ++ [s]).filterMap segmentComponent? = segs.filterMap segmentComponent? := by
  simp [List.filterMap_append, segmentComponent?, hs]

theorem Path.segments_joinName_of_isEmpty (hempty : p.isEmpty = true) (hname : isName name = true) :
    (p.joinName name).segments = [name] := by
  rw [joinName, join, hempty, Bool.or_true, if_pos rfl, segments,
    splitSegments_of_not_mem (isName_segments hname).2, List.map_singleton, String.ofList_toList]

/-- Joining a name adds it to the components of a path. -/
theorem Path.components_joinName (hname : isName name = true) :
    (p.joinName name).components = p.components ++ [.name name] := by
  rw [components_eq, components_eq p, List.append_assoc]
  -- No separator is put behind the empty path, and so its one segment is lost.
  by_cases hempty : p.isEmpty = true
  · rw [segments_joinName_of_isEmpty hempty hname, isEmpty_iff.mp hempty, ← List.nil_append [name],
      filterMap_concat_name _ hname]
    simp [leading, (ne_of_isName hname).2.1, segmentComponent?, isIdleSegment]
  · obtain ⟨before, hjoined, hbefore⟩ := p.segments_joinName (isName_segments hname).2
    have hsegments := hbefore (by simpa using hempty)
    have hsome : before ≠ [] := by
      rintro rfl
      rcases hsegments with hsegments | hsegments
      · exact p.segments_ne_nil hsegments
      · exact hempty (isEmpty_iff.mpr hsegments)
    obtain ⟨first, rest, rfl⟩ := List.exists_cons_of_ne_nil hsome
    rw [hjoined, filterMap_concat_name _ hname]
    rcases hsegments with hsegments | hsegments
    · have hfirst : first = "" → rest ≠ [] := by
        rintro rfl rfl
        exact hempty (isEmpty_iff.mpr hsegments)
      rw [hsegments]
      simp [leading, and_iff_left_of_imp hfirst]
    · -- A separator at the end is not repeated, and the idle segment behind it goes.
      rw [hsegments, filterMap_concat_idle _ rfl]
      simp [leading]

/-! ## Another last name -/

theorem trimIdle_eq (segs : List String) : trimIdle segs = segs.rdropWhile isIdleSegment :=
  rfl

/-- Trimming takes no component away. -/
theorem filterMap_trimIdle (segs : List String) :
    (trimIdle segs).filterMap segmentComponent? = segs.filterMap segmentComponent? := by
  rw [trimIdle_eq]
  induction segs using List.reverseRecOn with
  | nil => rfl
  | append_singleton segs s ih =>
    rw [List.rdropWhile_concat]
    split
    next hidle => rw [ih, filterMap_concat_idle segs hidle]
    next => rfl

/-- What is left by trimming ends in something that stands for a component. -/
theorem trimIdle_eq_nil_or (segs : List String) : trimIdle segs = [] ∨
    ∃ before s c, trimIdle segs = before ++ [s] ∧ segmentComponent? s = some c := by
  rcases List.eq_nil_or_concat' (trimIdle segs) with hnil | ⟨before, s, htrim⟩
  · exact .inl hnil
  · have hidle : ¬ isIdleSegment s = true := by
      have hlast := List.rdropWhile_last_not isIdleSegment segs (by simp [← trimIdle_eq, htrim])
      simpa [← trimIdle_eq, htrim] using hlast
    refine .inr ⟨before, s, if s == ".." then .parent else .name s, htrim, ?_⟩
    rw [segmentComponent?, if_neg hidle]
    split <;> rfl

theorem name_not_mem_leading (segs : List String) : Component.name name ∉ leading segs := by
  unfold leading
  split
  · split
    · simp
    split <;> simp
  · exact List.not_mem_nil

/-- The file name of a path is what the last of its segments stands for that stands for
something. -/
theorem Path.getLast?_of_fileName? (h : p.fileName? = some name) :
    (p.segments.filterMap segmentComponent?).getLast? = some (.name name) := by
  have hlast := getLast?_components h
  rw [components_eq, List.getLast?_append] at hlast
  cases hbody : (p.segments.filterMap segmentComponent?).getLast? with
  | none =>
    rw [hbody, Option.none_or] at hlast
    exact absurd (List.mem_of_getLast? hlast) (name_not_mem_leading _)
  | some c =>
    rw [hbody, Option.some_or] at hlast
    exact hlast

/-- What stands in front of the last segment that counts. A separator at the start stays. -/
theorem Path.components_beforeFileName_of_more {first s : String} {rest before : List String}
    (hsegments : p.segments = first :: rest) (htrim : trimIdle rest = before ++ [s]) :
    p.beforeFileName.components =
      leading (first :: rest) ++ (first :: before).filterMap segmentComponent? := by
  have hrest : rest ≠ [] := by
    rintro rfl
    simp [trimIdle_eq] at htrim
  have hbody : (first :: before).filterMap segmentComponent? =
      (first :: trimIdle before).filterMap segmentComponent? := by
    rw [List.filterMap_cons, List.filterMap_cons, filterMap_trimIdle]
  have hroot : p.isAbsolute = true ↔ first = "" := by
    rw [isAbsolute_iff, hsegments]
    exact ⟨fun ⟨_, _, heq⟩ => (List.cons.inj heq).1, fun hfirst => ⟨rest, hrest, hfirst ▸ rfl⟩⟩
  unfold beforeFileName
  rw [hsegments]
  dsimp only
  rw [htrim, List.dropLast_concat, if_neg (by simp), hbody]
  split
  next hnone =>
    obtain ⟨hkept, habsolute⟩ := Bool.and_eq_true_iff.mp hnone
    rw [List.isEmpty_iff.mp hkept, hroot.mp habsolute, leading, if_pos ⟨rfl, hrest⟩]
    decide
  next hkept =>
    -- The segments that are kept are put together to a text, which is cut into the same ones.
    have hplain : ∀ s ∈ first :: trimIdle before, '/' ∉ s.toList := by
      intro s hs
      refine not_mem_of_mem_segments (p := p) ?_
      rw [hsegments]
      rcases List.mem_cons.mp hs with rfl | hs
      · exact List.mem_cons_self
      · have hbefore := (List.rdropWhile_prefix isIdleSegment before).mem hs
        refine List.mem_cons_of_mem _ ((List.rdropWhile_prefix isIdleSegment rest).mem ?_)
        rw [← trimIdle_eq, htrim]
        exact List.mem_append_left _ hbefore
    -- Were there nothing behind an empty first segment, it would not stand for the root any more.
    have hsame : leading (first :: trimIdle before) = leading (first :: rest) := by
      have hsome : first = "" → trimIdle before ≠ [] := by
        rintro hfirst hnil
        exact hkept (by rw [hnil, hroot.mpr hfirst]; rfl)
      simp [leading, hrest, and_iff_left_of_imp hsome]
    rw [components_eq, segments_intercalate (List.cons_ne_nil _ _) hplain, hsame]

/-- The file name of a path comes behind the components in front of it. -/
theorem Path.components_beforeFileName (h : p.fileName? = some name) :
    p.components = p.beforeFileName.components ++ [.name name] := by
  have hname := isName_of_fileName? h
  have hlast := getLast?_of_fileName? h
  obtain ⟨first, rest, hsegments⟩ := List.exists_cons_of_ne_nil p.segments_ne_nil
  have hbody : p.segments.filterMap segmentComponent? =
      (first :: trimIdle rest).filterMap segmentComponent? := by
    rw [hsegments, List.filterMap_cons, List.filterMap_cons, filterMap_trimIdle]
  rw [hbody] at hlast
  rw [components_eq, hbody, hsegments]
  rcases trimIdle_eq_nil_or rest with htrim | ⟨before, s, c, htrim, hc⟩
  · -- The name is all there is in the path.
    have hfirst : segmentComponent? first = some (.name name) := by
      cases hfirst : segmentComponent? first with
      | none => simp [htrim, hfirst] at hlast
      | some c => simpa [htrim, hfirst] using hlast
    cases eq_of_segmentComponent? hfirst
    have hstart : leading (name :: rest) = [] := by simp [leading, ne_of_isName hname]
    have hbefore : p.beforeFileName = ⟨""⟩ := by simp [beforeFileName, hsegments, htrim]
    rw [htrim, hstart, hbefore, ← List.nil_append [name], filterMap_concat_name [] hname]
    rfl
  · -- What trimming leaves ends in the name, and the rest stays in front of it.
    have hsplit : first :: trimIdle rest = (first :: before) ++ [s] := by
      rw [htrim, List.cons_append]
    rw [hsplit, List.filterMap_append] at hlast
    obtain rfl : c = .name name := by simpa [hc] using hlast
    cases eq_of_segmentComponent? hc
    rw [components_beforeFileName_of_more hsegments htrim, hsplit,
      filterMap_concat_name _ hname, List.append_assoc]

/-- Another file name takes the place of the one there is. Where there is none, it is added. -/
theorem Path.components_withFileName (p : Path) : ∃ before,
    (∀ other, isName other = true → (p.withFileName other).components = before ++ [.name other]) ∧
    match p.fileName? with
    | some name => p.components = before ++ [.name name]
    | none => p.components = before := by
  cases hname : p.fileName? with
  | some name =>
    refine ⟨p.beforeFileName.components, fun other hother => ?_, components_beforeFileName hname⟩
    rw [withFileName, hname]
    exact components_joinName hother
  | none =>
    refine ⟨p.components, fun other hother => ?_, rfl⟩
    rw [withFileName, hname]
    exact components_joinName hother

/-! ## Paths beside each other -/

theorem Path.startsWith_iff : p.startsWith q = true ↔ q.components <+: p.components :=
  List.isPrefixOf_iff_prefix

/-- Neither path lies at or below the other one. -/
def Path.IsApart (p q : Path) : Prop :=
  ¬ p.startsWith q = true ∧ ¬ q.startsWith p = true

instance (p q : Path) : Decidable (p.IsApart q) :=
  inferInstanceAs (Decidable (_ ∧ _))

/-- Two names in one folder are apart. -/
theorem Path.isApart_of_names {before : List Component} {a b : String} (hne : a ≠ b)
    (hp : p.components = before ++ [.name a]) (hq : q.components = before ++ [.name b]) :
    p.IsApart q := by
  have hsame {a b : String} (h : before ++ [Component.name a] <+: before ++ [.name b]) :
      a = b := by
    simpa using h
  constructor
  · rw [startsWith_iff, hp, hq]
    exact fun h => hne (hsame h).symm
  · rw [startsWith_iff, hp, hq]
    exact fun h => hne (hsame h)

/-- What is apart from a folder is apart from what lies in it. -/
theorem Path.IsApart.joinName (h : p.IsApart q) (hname : isName name = true) :
    p.IsApart (q.joinName name) := by
  simp only [IsApart, startsWith_iff] at h
  constructor
  · rw [startsWith_iff, components_joinName hname]
    exact fun hbelow => h.1 ((List.prefix_append _ _).trans hbelow)
  · rw [startsWith_iff, components_joinName hname, List.prefix_concat_iff]
    rintro (heq | habove)
    · exact h.1 (heq ▸ List.prefix_append _ _)
    · exact h.2 habove

/-! ## The roots of a layout -/

/-- A name with an ending is a name. -/
theorem isName_append (hname : isName name = true) (hending : '/' ∉ ending.toList)
    (hlong : 2 < ending.length) : isName (name ++ ending) = true := by
  have hlength : 2 < (name ++ ending).length := by
    rw [String.length_append]
    omega
  have hne {s : String} (hs : s.length ≤ 2) : name ++ ending ≠ s := by
    rintro rfl
    omega
  have hplain : '/' ∉ (name ++ ending).toList := by
    rw [String.toList_append, List.mem_append]
    exact not_or.mpr ⟨(isName_segments hname).2, hending⟩
  have hcomponent : segmentComponent? (name ++ ending) = some (.name (name ++ ending)) := by
    rw [segmentComponent?, isIdleSegment, beq_false_of_ne (hne (s := "") (by decide)),
      beq_false_of_ne (hne (s := ".") (by decide)), beq_false_of_ne (hne (s := "..") (by decide))]
    rfl
  rw [isName, hcomponent, beq_self_eq_true, Bool.true_and, Bool.not_eq_true',
    List.contains_eq_mem, decide_eq_false hplain]

variable {folder : Path}

/-- A scan goes into the folder: it is one of those directly below the main root. -/
def FolderLayout.Scans (layout : FolderLayout) (tree : FileTree) (folder : Path) : Prop :=
  ∃ names, tree.list? layout.root = some names ∧ folder ∈ foldersBelow tree layout.root names

theorem FolderLayout.scans_iff {layout : FolderLayout} : layout.Scans tree folder ↔
    ∃ name, tree.HasSubfolder layout.root name ∧ folder = layout.root.joinName name := by
  constructor
  · rintro ⟨names, hlist, hmem⟩
    obtain ⟨hmem, hfolder⟩ := List.mem_filter.mp hmem
    obtain ⟨name, hname, rfl⟩ := List.mem_map.mp hmem
    exact ⟨name, ⟨⟨names, hlist, hname⟩, hfolder⟩, rfl⟩
  · rintro ⟨name, ⟨⟨names, hlist, hname⟩, hfolder⟩, rfl⟩
    exact ⟨names, hlist, List.mem_filter.mpr ⟨List.mem_map_of_mem hname, hfolder⟩⟩

/-- What the names of the two other roots end in. -/
def rootEndings : List String :=
  ["-build", "-lib"]

/-- The name that a root is taken to have, with an ending. -/
def Path.nameWith (root : Path) (ending : String) : String :=
  root.fileName?.getD "extensions" ++ ending

theorem Path.isName_nameWith (root : Path) (hending : ending ∈ rootEndings) :
    isName (root.nameWith ending) = true := by
  have hname : isName (root.fileName?.getD "extensions") = true := by
    cases hname : root.fileName? with
    | none => decide
    | some name => exact isName_of_fileName? hname
  have hall : ∀ ending ∈ rootEndings, '/' ∉ ending.toList ∧ 2 < ending.length := by decide
  exact isName_append hname (hall ending hending).1 (hall ending hending).2

theorem Path.nameWith_ne (hname : root.fileName? = some name) (hending : ending ∈ rootEndings) :
    root.nameWith ending ≠ name := by
  have hall : ∀ ending ∈ rootEndings, ending.length ≠ 0 := by decide
  intro heq
  have hlength := congrArg String.length heq
  rw [nameWith, hname, Option.getD_some, String.length_append] at hlength
  exact hall ending hending (by omega)

theorem Path.nameWith_inj {ending' : String} :
    root.nameWith ending = root.nameWith ending' ↔ ending = ending' := by
  simp [nameWith]

/-- The two other roots are the main one with its name and an ending. -/
theorem FolderLayout.rootedAt_searchRoots (root : Path) : (rootedAt root).searchRoots =
    root :: rootEndings.map fun ending => root.withFileName (root.nameWith ending) :=
  rfl

theorem FolderLayout.mem_rootedAt_tail : other ∈ (rootedAt root).searchRoots.tail ↔
    ∃ ending ∈ rootEndings, root.withFileName (root.nameWith ending) = other := by
  rw [rootedAt_searchRoots, List.tail_cons, List.mem_map]

/-- Beside a root that has a name, the others are apart from it. -/
theorem FolderLayout.isApart_of_rootedAt (hname : root.fileName? = some name)
    (hother : other ∈ (rootedAt root).searchRoots.tail) : other.IsApart root := by
  obtain ⟨ending, hending, rfl⟩ := mem_rootedAt_tail.mp hother
  obtain ⟨before, hbeside, hroot⟩ := root.components_withFileName
  rw [hname] at hroot
  exact Path.isApart_of_names (Path.nameWith_ne hname hending)
    (hbeside _ (root.isName_nameWith hending)) hroot

/-- A root without a name has the others in it. -/
theorem FolderLayout.joinName_of_rootedAt (hname : root.fileName? = none)
    (hother : other ∈ (rootedAt root).searchRoots.tail) :
    ∃ name, other = root.joinName name ∧ isName name = true := by
  obtain ⟨ending, hending, rfl⟩ := mem_rootedAt_tail.mp hother
  refine ⟨_, ?_, root.isName_nameWith hending⟩
  rw [Path.withFileName, hname]

/-- No two of the roots are the same. -/
theorem FolderLayout.nodup_rootedAt (root : Path) :
    ((rootedAt root).searchRoots.map Path.components).Nodup := by
  obtain ⟨before, hbeside, hroot⟩ := root.components_withFileName
  -- With a name the main root ends in another one than the others, and without it is shorter.
  have hmain : ∀ ending ∈ rootEndings,
      root.components ≠ before ++ [.name (root.nameWith ending)] := by
    intro ending hending
    cases hname : root.fileName? with
    | some name =>
      rw [hname] at hroot
      rw [hroot]
      simpa using (Path.nameWith_ne hname hending).symm
    | none =>
      rw [hname] at hroot
      rw [hroot]
      simp
  have hothers : (rootEndings.map fun ending => root.withFileName (root.nameWith ending)).map
      Path.components = rootEndings.map fun ending => before ++ [.name (root.nameWith ending)] := by
    rw [List.map_map]
    exact List.map_congr_left fun ending hending => hbeside _ (root.isName_nameWith hending)
  rw [rootedAt_searchRoots, List.map_cons, hothers, List.nodup_cons]
  constructor
  · intro hmem
    obtain ⟨ending, hending, heq⟩ := List.mem_map.mp hmem
    exact hmain ending hending heq.symm
  · refine List.Nodup.map (fun ending ending' heq => ?_) (by decide)
    exact Path.nameWith_inj.mp (by simpa using heq)

/-- Each root is another one, for every root that the layout is made for. The two others lie in it
exactly if it has no name of its own. If it has one, then they are apart from it and from all that
a scan goes into, and if it has none, then a scan goes into them where they are folders. -/
theorem FolderLayout.rootedAt_roots (root : Path) :
    ((rootedAt root).searchRoots.map Path.components).Nodup ∧
    ∀ other ∈ (rootedAt root).searchRoots.tail,
      (other.startsWith root = true ↔ root.fileName? = none) ∧
      (root.fileName? ≠ none → other.IsApart root ∧ ∀ tree folder, tree.IsNamed →
        (rootedAt root).Scans tree folder → other.IsApart folder) ∧
      (root.fileName? = none → ∃ name, other = root.joinName name ∧ isName name = true ∧
        ∀ tree, tree.HasSubfolder root name → (rootedAt root).Scans tree other) := by
  refine ⟨nodup_rootedAt root, fun other hother => ?_⟩
  cases hname : root.fileName? with
  | some name =>
    have hapart := isApart_of_rootedAt hname hother
    refine ⟨iff_of_false hapart.1 nofun, fun _ => ⟨hapart, ?_⟩, nofun⟩
    intro tree folder htree hscans
    obtain ⟨below, hbelow, rfl⟩ := scans_iff.mp hscans
    exact hapart.joinName (hbelow.isName htree)
  | none =>
    obtain ⟨below, rfl, hbelow⟩ := joinName_of_rootedAt hname hother
    have hin : (root.joinName below).startsWith root = true := by
      rw [Path.startsWith_iff, Path.components_joinName hbelow]
      exact List.prefix_append _ _
    refine ⟨iff_of_true hin rfl, fun hsome => absurd rfl hsome, fun _ => ?_⟩
    exact ⟨below, rfl, hbelow, fun tree hsubfolder => scans_iff.mpr ⟨below, hsubfolder, rfl⟩⟩

/-- The root may end in what says nothing. -/
theorem FolderLayout.rootedAt_beside :
    let root : Path := ⟨"srv//extensions/."⟩
    let tree := (FileTree.empty "w").write ⟨"srv/extensions/echo/extension.yaml"⟩ (.file [])
    (rootedAt root).searchRoots = [root, ⟨"srv/extensions-build"⟩, ⟨"srv/extensions-lib"⟩] ∧
      (rootedAt root).Scans tree ⟨"srv//extensions/./echo"⟩ ∧
      Path.IsApart ⟨"srv/extensions-build"⟩ ⟨"srv//extensions/./echo"⟩ := by
  intro root tree
  have htree : tree.IsNamed := (FileTree.isNamed_empty "w").write (by decide +kernel)
  have hscans : (rootedAt root).Scans tree ⟨"srv//extensions/./echo"⟩ :=
    ⟨["echo"], by decide +kernel, by decide +kernel⟩
  have hroots := (rootedAt_roots root).2 ⟨"srv/extensions-build"⟩ (by decide +kernel)
  exact ⟨by decide +kernel, hscans, (hroots.2.1 (by decide +kernel)).2 tree _ htree hscans⟩

/-- The two others lie in each root without a name, and what is scanned in the working folder may
be one of them. -/
theorem FolderLayout.rootedAt_within :
    (rootedAt ⟨".."⟩).searchRoots = [⟨".."⟩, ⟨"../extensions-build"⟩, ⟨"../extensions-lib"⟩] ∧
    (∀ root ∈ [⟨""⟩, ⟨"/"⟩, ⟨"."⟩, ⟨".."⟩, ⟨"a/.."⟩],
      ∀ other ∈ (rootedAt root).searchRoots.tail, other.startsWith root = true) ∧
    (let tree := (FileTree.empty "w").write ⟨"extensions-build/extension.yaml"⟩
      (.file "id: extensions-build".toUTF8.data.toList)
     ((rootedAt ⟨"."⟩).scan tree).1.map (·.folder) = [(rootedAt ⟨"."⟩).buildOutputRoot]) := by
  decide +kernel

end ExtensionHost
