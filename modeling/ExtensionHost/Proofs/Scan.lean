import ExtensionHost.Host.Watch

/-!
# What a scan tells

Every event of a scan is about one folder below the root, which has the id for its name.
So where names are no more than names there is one event for each id, and what is scanned
depends on nothing but the files.
-/

namespace ExtensionHost

/-! ## Names -/

theorem splitSegments_append_separator (cs ds : List Char) :
    splitSegments (cs ++ '/' :: ds) = splitSegments cs ++ splitSegments ds := by
  induction cs with
  | nil => rfl
  | cons c cs ih =>
    by_cases hc : c = '/'
    · simp [splitSegments, hc, ih]
    · rcases List.exists_cons_of_ne_nil (splitSegments_ne_nil cs) with ⟨seg, segs, hsegs⟩
      simp [splitSegments, hc, ih, hsegs]

theorem splitSegments_of_not_mem {cs : List Char} (hcs : '/' ∉ cs) : splitSegments cs = [cs] := by
  induction cs with
  | nil => rfl
  | cons c cs ih =>
    have hboth : '/' ≠ c ∧ '/' ∉ cs := by simpa using hcs
    rcases hboth with ⟨hc, hrest⟩
    simp [splitSegments, hc.symm, ih hrest]

/-- Whether a text is a name: it leads to something below a folder, and there is no
separator in it. -/
def isName (s : String) : Bool :=
  segmentComponent? s == some (.name s) && !s.toList.contains '/'

theorem isName_segments {s : String} (hs : isName s = true) :
    segmentComponent? s = some (.name s) ∧ '/' ∉ s.toList := by
  simpa [isName] using hs

/-- A name neither says nothing nor leads up. -/
theorem segment_of_isName {s : String} (hs : isName s = true) :
    isIdleSegment s = false ∧ (s == "..") = false := by
  have hcomponent := (isName_segments hs).1
  unfold segmentComponent? at hcomponent
  split at hcomponent
  · cases hcomponent
  next hidle =>
    split at hcomponent
    · cases hcomponent
    next hup => exact ⟨by simpa using hidle, by simpa using hup⟩

theorem Path.fileName?_of_segments {p : Path} {before : List String} {s : String}
    (hp : p.segments = before ++ [s]) (hs : segmentComponent? s = some (.name s)) :
    p.fileName? = some s := by
  have hbody : p.segments.filterMap segmentComponent? =
      before.filterMap segmentComponent? ++ [.name s] := by
    simp [hp, List.filterMap_append, hs]
  have hlast : p.components.getLast? = some (.name s) := by
    unfold components
    rw [hbody]
    split
    · rw [← List.cons_append, List.getLast?_concat]
    split
    · rw [← List.cons_append, List.getLast?_concat]
    · rw [List.getLast?_concat]
  rw [fileName?, hlast]

theorem Path.isAbsolute_of_not_mem {name : String} (hname : '/' ∉ name.toList) :
    (Path.mk name).isAbsolute = false := by
  cases hcs : name.toList with
  | nil => simp [isAbsolute, hcs]
  | cons c cs =>
    rw [hcs] at hname
    have hc : c ≠ '/' := fun hc => hname (hc ▸ List.mem_cons_self)
    simp [isAbsolute, hcs, hc]

/-- Joining a name adds it to the segments of a path. A separator at the end of the path is not
repeated. -/
theorem Path.segments_joinName (base : Path) {name : String} (hname : '/' ∉ name.toList) :
    ∃ before, (base.joinName name).segments = before ++ [name] ∧
      (base.isEmpty = false → base.segments = before ∨ base.segments = before ++ [""]) := by
  have hjoined (cs : List Char) :
      (splitSegments (cs ++ '/' :: name.toList)).map String.ofList =
        (splitSegments cs).map String.ofList ++ [name] := by
    simp [splitSegments_append_separator, splitSegments_of_not_mem hname]
  unfold joinName join
  rw [isAbsolute_of_not_mem hname, Bool.false_or]
  split
  next hempty =>
    exact ⟨[], by simp [segments, splitSegments_of_not_mem hname], by simp [hempty]⟩
  split
  next hlast =>
    -- The separator is there already.
    obtain ⟨cs, hbase⟩ := List.getLast?_eq_some_iff.mp (beq_iff_eq.mp hlast)
    refine ⟨(splitSegments cs).map String.ofList, ?_, fun _ => .inr ?_⟩
    · simpa [segments, String.toList_append, hbase] using hjoined cs
    · simp [segments, hbase, splitSegments_append_separator, splitSegments]
  next =>
    refine ⟨base.segments, ?_, fun _ => .inl rfl⟩
    simpa [segments, String.toList_append] using hjoined base.text.toList

/-- A path that is made by joining a name ends in that name. -/
theorem Path.fileName?_joinName {base : Path} {name : String} (hname : isName name = true) :
    (base.joinName name).fileName? = some name := by
  obtain ⟨hcomponent, hplain⟩ := isName_segments hname
  obtain ⟨before, hsegments, -⟩ := base.segments_joinName hplain
  exact fileName?_of_segments hsegments hcomponent

/-! ## Events of a scan -/

variable {layout : FolderLayout} {tree : FileTree} {e e' : Event}

/-- The names in a store are names. -/
def FileTree.IsNamed (tree : FileTree) : Prop :=
  ∀ entry ∈ tree.entries, entry.1.names.getLast?.all isName = true

instance (tree : FileTree) : Decidable tree.IsNamed :=
  inferInstanceAs (Decidable (∀ entry ∈ tree.entries, _))

theorem FileTree.IsNamed.list? {p : Path} {names : List String} (ht : tree.IsNamed)
    (hlist : tree.list? p = some names) : ∀ name ∈ names, isName name = true := by
  intro name hname
  unfold FileTree.list? at hlist
  split at hlist
  next place hplace =>
    split at hlist
    · cases hlist
      rcases List.mem_filterMap.mp (List.mem_reverse.mp hname) with ⟨⟨other, entry⟩, hmem, hsome⟩
      have hall := ht _ hmem
      cases hlast : other.names.getLast? with
      | none => simp [hlast] at hsome
      | some last =>
        simp only [hlast] at hsome hall
        split at hsome
        · cases hsome
          simpa using hall
        · cases hsome
    · cases hlist
  next => cases hlist

/-! ## Names in stores -/

theorem not_mem_of_mem_splitSegments {cs seg : List Char} (hseg : seg ∈ splitSegments cs) :
    '/' ∉ seg := by
  induction cs generalizing seg with
  | nil =>
    cases List.mem_singleton.mp hseg
    exact List.not_mem_nil
  | cons c cs ih =>
    rcases List.exists_cons_of_ne_nil (splitSegments_ne_nil cs) with ⟨first, rest, hsegs⟩
    rw [hsegs] at ih
    unfold splitSegments at hseg
    split at hseg
    · rcases List.mem_cons.mp hseg with rfl | hseg
      · exact List.not_mem_nil
      · exact ih (hsegs ▸ hseg)
    next hc =>
      rw [hsegs] at hseg
      rcases List.mem_cons.mp hseg with rfl | hseg
      · have hne : '/' ≠ c := fun heq => hc (beq_iff_eq.mpr heq.symm)
        simpa [hne] using ih List.mem_cons_self
      · exact ih (List.mem_cons_of_mem _ hseg)

/-- A step of a path is a name, unless it leads up. -/
theorem Path.isName_of_mem_steps {p : Path} {s : String} (hs : s ∈ p.steps) (hup : s ≠ "..") :
    isName s = true := by
  rcases List.mem_filter.mp hs with ⟨hsegment, hidle⟩
  rcases List.mem_map.mp hsegment with ⟨seg, hseg, rfl⟩
  have hplain := not_mem_of_mem_splitSegments hseg
  simp only [Bool.not_eq_true'] at hidle
  simp [isName, segmentComponent?, hidle, hup, hplain]

/-- A segment that stands for a name is that name. -/
theorem eq_of_segmentComponent? {s name : String}
    (hs : segmentComponent? s = some (.name name)) : s = name := by
  unfold segmentComponent? at hs
  split at hs
  · cases hs
  split at hs
  · cases hs
  · cases hs
    rfl

theorem Path.getLast?_components {p : Path} {name : String} (h : p.fileName? = some name) :
    p.components.getLast? = some (.name name) := by
  unfold fileName? at h
  split at h
  · cases h
    assumption
  · cases h

/-- The last name of a path is a name. -/
theorem Path.isName_of_fileName? {p : Path} {s : String} (hs : p.fileName? = some s) :
    isName s = true := by
  have hbody : Component.name s ∈ p.segments.filterMap segmentComponent? := by
    have hmem := List.mem_of_getLast? (getLast?_components hs)
    unfold components at hmem
    dsimp only at hmem
    split at hmem
    · simpa using hmem
    split at hmem
    · simpa using hmem
    · exact hmem
  obtain ⟨segment, hsegment, hcomponent⟩ := List.mem_filterMap.mp hbody
  obtain rfl := eq_of_segmentComponent? hcomponent
  obtain ⟨cs, hcs, rfl⟩ := List.mem_map.mp hsegment
  have hplain := not_mem_of_mem_splitSegments hcs
  simp [isName, hcomponent, hplain]

theorem FileTree.isNamed_empty (working : String) : (FileTree.empty working).IsNamed :=
  fun _ hmem => absurd hmem List.not_mem_nil

theorem FileTree.IsNamed.put {place : Place} {name : String} {entry : Entry} (ht : tree.IsNamed)
    (hname : isName name = true) : (tree.put (place.child name) entry).IsNamed := by
  intro other hmem
  rcases List.mem_append.mp hmem with hmem | hmem
  · exact ht other (List.mem_filter.mp hmem).1
  · cases List.mem_singleton.mp hmem
    simpa [Place.child] using hname

theorem FileTree.IsNamed.enter {place : Place} {names : List String} (ht : tree.IsNamed)
    (hnames : ∀ name ∈ names, isName name = true) : (tree.enter place names).1.IsNamed := by
  induction names generalizing tree place with
  | nil => exact ht
  | cons name rest ih =>
    rcases List.forall_mem_cons.mp hnames with ⟨hname, hrest⟩
    unfold FileTree.enter
    split
    · exact ih ht hrest
    · exact ih (ht.put hname) hrest

/-- What is written at a path that does not lead up has names for its names. -/
theorem FileTree.IsNamed.write {p : Path} {entry : Entry} (ht : tree.IsNamed)
    (hp : ".." ∉ p.steps) : (tree.write p entry).IsNamed := by
  have hsteps : ∀ s ∈ p.steps, isName s = true := by
    intro s hs
    exact Path.isName_of_mem_steps hs fun hup => hp (hup ▸ hs)
  unfold FileTree.write
  split
  · exact ht.enter hsteps
  next name _ hlast =>
    have habove : (tree.enter ⟨tree.working, []⟩ p.steps.dropLast).1.IsNamed :=
      ht.enter fun s hs => hsteps s (List.dropLast_subset _ hs)
    exact habove.put (hsteps name (List.mem_of_getLast? hlast))
  · exact ht

theorem FileTree.IsNamed.delete {p : Path} (ht : tree.IsNamed) : (tree.delete p).IsNamed := by
  unfold FileTree.delete
  split
  · exact ht
  split
  · exact fun other hmem => ht other (List.mem_filter.mp hmem).1
  · exact ht

/-! ## Folders -/

variable {id name : String} {root folder : Path} {d : Descriptor}

/-- A description is read in the manifest of a folder, if that is a file, its text can be parsed,
and the id in it is not blank. -/
theorem FolderLayout.readManifest_ok_iff : layout.readManifest tree folder = .ok d ↔
    tree.isFile (folder.joinName layout.manifestFile) = true ∧ ∃ text parsed,
      tree.readText? (folder.joinName layout.manifestFile) = some text ∧
      Descriptor.parseYaml? text = some parsed ∧ isBlankText parsed.id = false ∧
      d = parsed.inFolder folder := by
  unfold readManifest
  dsimp only
  cases tree.isFile (folder.joinName layout.manifestFile) with
  | false => simp
  | true =>
    cases htext : tree.readText? (folder.joinName layout.manifestFile) with
    | none => simp
    | some text =>
      cases hparse : Descriptor.parseYaml? text with
      | none => simp [hparse]
      | some parsed =>
        cases hblank : isBlankText parsed.id with
        | true => simp [hparse, hblank]
        | false => simpa [hparse, hblank] using eq_comm

/-- What is read in a folder is the description in its manifest, with the name of the folder for
its id. -/
theorem FolderLayout.readFolder_ok_iff : layout.readFolder tree folder = .ok d ↔
    layout.readManifest tree folder = .ok d ∧ folder.fileName?.getD "" = d.id := by
  unfold readFolder
  cases layout.readManifest tree folder with
  | error failure => simp [bind, Except.bind]
  | ok d' =>
    by_cases hname : folder.fileName?.getD "" = d'.id
    · simp only [bind, Except.bind, if_pos hname, pure, Except.pure, Except.ok.injEq]
      exact ⟨fun heq => ⟨heq, heq ▸ hname⟩, And.left⟩
    · simp only [bind, Except.bind, if_neg hname, Except.ok.injEq]
      exact iff_of_false (fun heq => nomatch heq) fun ⟨heq, hid⟩ => hname (heq ▸ hid)

theorem FolderLayout.readFolder_ok
    (h : layout.readFolder tree folder = .ok d) :
    isBlankText d.id = false ∧ folder.fileName?.getD "" = d.id := by
  obtain ⟨hmanifest, hname⟩ := readFolder_ok_iff.mp h
  obtain ⟨-, text, parsed, -, -, hblank, rfl⟩ := readManifest_ok_iff.mp hmanifest
  exact ⟨hblank, hname⟩

theorem FolderLayout.readFolder_folder
    (h : layout.readFolder tree folder = .ok d) : d.folder = folder := by
  obtain ⟨hmanifest, -⟩ := readFolder_ok_iff.mp h
  obtain ⟨-, text, parsed, -, -, -, rfl⟩ := readManifest_ok_iff.mp hmanifest
  rfl

/-- What is located is the first folder among those that the id is joined to a root for. -/
theorem FolderLayout.locate_ok_iff : layout.locate tree id = .ok folder ↔
    ∃ before root after, layout.searchRoots = before ++ root :: after ∧
      (∀ other ∈ before, ¬ tree.isFolder (other.joinName id) = true) ∧
      tree.isFolder (root.joinName id) = true ∧ folder = root.joinName id := by
  unfold locate
  rw [List.find?_map]
  constructor
  · intro h
    split at h
    next found hfound =>
      cases h
      obtain ⟨root, hfind, rfl⟩ := Option.map_eq_some_iff.mp hfound
      obtain ⟨hfolder, before, after, hroots, hbefore⟩ := List.find?_eq_some_iff_append.mp hfind
      exact ⟨before, root, after, hroots, by simpa using hbefore, hfolder, rfl⟩
    · cases h
  · rintro ⟨before, root, after, hroots, hbefore, hfolder, rfl⟩
    have hfind : layout.searchRoots.find? (tree.isFolder ∘ (·.joinName id)) = some root :=
      List.find?_eq_some_iff_append.mpr
        ⟨hfolder, before, after, hroots, by simpa using hbefore⟩
    rw [hfind]
    rfl

theorem FolderLayout.locate_isFolder
    (h : layout.locate tree id = .ok folder) : tree.isFolder folder = true := by
  obtain ⟨before, root, after, -, -, hfolder, rfl⟩ := locate_ok_iff.mp h
  exact hfolder

/-- The description of an id is read in the folder that is located for it. -/
theorem FolderLayout.descriptorOf_ok_iff :
    layout.descriptorOf tree id = .ok d ↔
      ∃ folder, layout.locate tree id = .ok folder ∧ layout.readFolder tree folder = .ok d := by
  unfold descriptorOf
  cases layout.locate tree id <;> simp [bind, Except.bind]

theorem FolderLayout.descriptorOf_ok
    (h : layout.descriptorOf tree id = .ok d) :
    ∃ root : Path, layout.readFolder tree (root.joinName id) = .ok d := by
  obtain ⟨folder, hlocate, hread⟩ := descriptorOf_ok_iff.mp h
  obtain ⟨before, root, after, -, -, -, rfl⟩ := locate_ok_iff.mp hlocate
  exact ⟨root, hread⟩

/-- What a scan says of a folder it says with the description in that folder. -/
theorem FolderLayout.scanFolder_ok_iff : layout.scanFolder tree folder = .ok e ↔
    ∃ d, layout.readFolder tree folder = .ok d ∧
      e = .of (if layout.isDisabled tree folder then .disable else .enable) d := by
  unfold scanFolder
  cases layout.readFolder tree folder with
  | error failure => simp
  | ok d => simpa using eq_comm

theorem FolderLayout.scanFolder_ok (h : layout.scanFolder tree folder = .ok e) :
    (e.change = .enable ∨ e.change = .disable) ∧ isBlankText e.id = false ∧
      folder.fileName?.getD "" = e.id := by
  obtain ⟨d, hread, rfl⟩ := scanFolder_ok_iff.mp h
  refine ⟨?_, readFolder_ok hread⟩
  cases layout.isDisabled tree folder with
  | true => exact .inr rfl
  | false => exact .inl rfl

theorem FolderLayout.scanFolders_cons (folder : Path) (rest : List Path) :
    layout.scanFolders tree (folder :: rest) =
      match layout.scanFolder tree folder with
      | .ok event => (event :: (layout.scanFolders tree rest).1, (layout.scanFolders tree rest).2)
      | .error notice =>
        ((layout.scanFolders tree rest).1, notice :: (layout.scanFolders tree rest).2) := by
  rfl

theorem FolderLayout.scanFolders_events (folders : List Path) :
    (layout.scanFolders tree folders).1 =
      folders.filterMap fun folder => (layout.scanFolder tree folder).toOption := by
  induction folders with
  | nil => rfl
  | cons folder rest ih =>
    rw [scanFolders_cons, List.filterMap_cons]
    cases layout.scanFolder tree folder with
    | ok e => exact congrArg _ ih
    | error notice => exact ih

/-! ## Folders directly below a root -/

/-- There is a folder of the name directly below a root. -/
structure FileTree.HasSubfolder (tree : FileTree) (root : Path) (name : String) : Prop where
  listed : ∃ names, tree.list? root = some names ∧ name ∈ names
  isFolder : tree.isFolder (root.joinName name) = true

theorem FileTree.HasSubfolder.isName (ht : tree.IsNamed) (h : tree.HasSubfolder root name) :
    isName name = true := by
  obtain ⟨names, hlist, hmem⟩ := h.listed
  exact ht.list? hlist name hmem

/-- The events of a scan are what is said of the folders below the root. -/
theorem FolderLayout.mem_scan_iff : e ∈ (layout.scan tree).1 ↔
    ∃ name, tree.HasSubfolder layout.root name ∧
      layout.scanFolder tree (layout.root.joinName name) = .ok e := by
  unfold scan scanRoot
  cases hlist : tree.list? layout.root with
  | none =>
    refine iff_of_false List.not_mem_nil ?_
    rintro ⟨name, ⟨⟨names, hnames, -⟩, -⟩, -⟩
    cases hlist.symm.trans hnames
  | some names =>
    dsimp only
    rw [scanFolders_events, List.mem_filterMap]
    constructor
    · rintro ⟨folder, hfolder, hscan⟩
      obtain ⟨hmem, hfolder⟩ := List.mem_filter.mp hfolder
      obtain ⟨name, hname, rfl⟩ := List.mem_map.mp hmem
      refine ⟨name, ⟨⟨names, hlist, hname⟩, hfolder⟩, ?_⟩
      cases hevent : layout.scanFolder tree (layout.root.joinName name) with
      | error notice => simp [hevent, Except.toOption] at hscan
      | ok event => simpa [hevent, Except.toOption] using hscan
    · rintro ⟨name, ⟨⟨names', hnames', hname⟩, hfolder⟩, hscan⟩
      cases hlist.symm.trans hnames'
      refine ⟨_, List.mem_filter.mpr ⟨List.mem_map_of_mem hname, hfolder⟩, ?_⟩
      rw [hscan]
      rfl

/-- A scan asks for no updates and no removals, and its ids are not blank. -/
theorem FolderLayout.scan_change (he : e ∈ (layout.scan tree).1) :
    (e.change = .enable ∨ e.change = .disable) ∧ isBlankText e.id = false := by
  obtain ⟨name, -, hscan⟩ := mem_scan_iff.mp he
  obtain ⟨hchange, hblank, -⟩ := scanFolder_ok hscan
  exact ⟨hchange, hblank⟩

/-- A scan has one event for an id. -/
theorem FolderLayout.scan_eq_of_id (ht : tree.IsNamed) (he : e ∈ (layout.scan tree).1)
    (he' : e' ∈ (layout.scan tree).1) (hid : e.id = e'.id) : e = e' := by
  obtain ⟨name, hfolder, hscan⟩ := mem_scan_iff.mp he
  obtain ⟨name', hfolder', hscan'⟩ := mem_scan_iff.mp he'
  have hfile := (scanFolder_ok hscan).2.2
  have hfile' := (scanFolder_ok hscan').2.2
  rw [Path.fileName?_joinName (hfolder.isName ht)] at hfile
  rw [Path.fileName?_joinName (hfolder'.isName ht)] at hfile'
  -- The folder is the one named by the id, so both are said of the same folder.
  have hnames : name = name' := hfile.trans (hid.trans hfile'.symm)
  rw [hnames, hscan'] at hscan
  cases hscan
  rfl

/-! ## Small hosts -/

/-- The host with a manifest in the folder of an extension. -/
def Host.describing (h : Host) (id manifest : String) : Host :=
  { h with
    files := h.files.write ⟨"extensions/" ++ id ++ "/extension.yaml"⟩
      (.file manifest.toUTF8.data.toList) }

end ExtensionHost
