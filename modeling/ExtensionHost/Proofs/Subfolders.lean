import ExtensionHost.Proofs.ListingOrder
import ExtensionHost.Proofs.Opening

/-!
# Folders below the roots

An id is looked for by joining it to each root. Where it is a name this finds the folder of that
name directly below the first root that has one; any other id leads somewhere else. So the
manifest that a scan has read in a folder is the one that is read for its id.
-/

namespace ExtensionHost

variable {layout : FolderLayout} {tree : FileTree} {id name : String} {root folder : Path}
variable {d : Descriptor} {e : Event} {context : Context} {notices : List Notice}
variable {libraries : Path → Option Library}

/-! ## Following a path to its last name -/

/-- What is followed after some segments does not depend on how they were followed. -/
theorem FileTree.follow_append {fuel links : Nat} {place found : Place}
    {segments rest : List String}
    (h : tree.follow fuel links place (segments ++ rest) = some found) :
    ∃ fuel' links' middle, ∀ rest', tree.follow fuel links place (segments ++ rest') =
      tree.follow fuel' links' middle rest' := by
  induction fuel generalizing links place segments with
  | zero => cases h
  | succ fuel ih =>
    cases segments with
    | nil => exact ⟨fuel + 1, links, place, fun _ => rfl⟩
    | cons segment more =>
      simp only [List.cons_append, FileTree.follow] at h ⊢
      cases hfolder : tree.isFolderAt place with
      | false => simp [hfolder] at h
      | true =>
      cases hidle : isIdleSegment segment with
      | true =>
        simp only [hfolder, hidle] at h ⊢
        exact ih h
      | false =>
      cases hup : segment == ".." with
      | true =>
        simp only [hfolder, hidle, hup] at h ⊢
        exact ih h
      | false =>
      simp only [hfolder, hidle, hup] at h ⊢
      cases hentry : tree.entry? (place.child segment) with
      | none => simp [hentry] at h
      | some entry =>
        simp only [hentry] at h ⊢
        cases entry with
        | file | folder | device => exact ih h
        | link target =>
          -- What a link leads along comes before the segments that are left.
          cases links with
          | zero => cases h
          | succ links =>
            cases target with
            | path p =>
              cases hempty : p.isEmpty with
              | true => simp [hempty] at h
              | false =>
                simp only [hempty] at h ⊢
                rw [← List.append_assoc] at h
                simp only [← List.append_assoc]
                exact ih h
            | place other =>
              dsimp only at h ⊢
              rw [← List.append_assoc] at h
              simp only [← List.append_assoc]
              exact ih h

/-- A name is followed from a folder that has it, and only separators may stand between. -/
theorem FileTree.follow_name {fuel links : Nat} {place found : Place} (hname : isName name = true)
    (h : tree.follow fuel links place [name] = some found) :
    tree.isFolderAt place = true ∧ (tree.entry? (place.child name)).isSome = true ∧
      tree.follow fuel links place [] = some place ∧
      tree.follow fuel links place [""] = some place := by
  obtain ⟨hidle, hup⟩ := segment_of_isName hname
  match fuel with
  | 0 => cases h
  | 1 =>
    -- Nothing is left to stay below.
    have hnone : tree.follow 1 links place [name] = none := by
      simp only [FileTree.follow, hidle, hup]
      repeat' split
      all_goals rfl
    cases hnone.symm.trans h
  | fuel + 2 =>
    cases hfolder : tree.isFolderAt place with
    | false => simp [FileTree.follow, hfolder] at h
    | true =>
      refine ⟨rfl, ?_, rfl, ?_⟩
      · cases hentry : tree.entry? (place.child name) with
        | none => simp [FileTree.follow, hfolder, hidle, hup, hentry] at h
        | some entry => rfl
      · simp [FileTree.follow, hfolder, isIdleSegment]

/-! ## Listed names -/

theorem FileTree.mem_namesAt {place : Place}
    (h : (tree.entry? (place.child name)).isSome = true) : name ∈ tree.namesAt place := by
  have hnames : (place.child name).names = place.names ++ [name] := rfl
  obtain ⟨entry, hentry⟩ := Option.isSome_iff_exists.mp h
  unfold entry? at hentry
  rw [hnames, if_neg (by simp)] at hentry
  obtain ⟨before, after, hentries, -⟩ := List.lookup_eq_some_iff.mp hentry
  refine List.mem_filterMap.mpr ⟨(place.child name, entry), ?_, ?_⟩
  · simp [hentries]
  · simp [hnames]

/-- Joining a name keeps the text of a path. -/
theorem Path.exists_joinName_text (hroot : root.isEmpty = false) (hname : '/' ∉ name.toList) :
    ∃ more, (root.joinName name).text = root.text ++ more := by
  unfold joinName join
  rw [isAbsolute_of_not_mem hname, hroot, if_neg (by simp)]
  split
  · exact ⟨name, rfl⟩
  · exact ⟨"/" ++ name, String.append_assoc⟩

theorem Path.isAbsolute_joinName (hroot : root.isEmpty = false) (hname : '/' ∉ name.toList) :
    (root.joinName name).isAbsolute = root.isAbsolute := by
  obtain ⟨more, htext⟩ := exists_joinName_text hroot hname
  unfold isAbsolute
  rw [htext, String.toList_append, List.head?_append_of_ne_nil]
  simpa [isEmpty] using hroot

/-- A path can be followed if it can be with a name joined to it. -/
theorem Path.isFollowable_of_joinName (hroot : root.isEmpty = false) (hname : '/' ∉ name.toList)
    (h : (root.joinName name).isFollowable = true) : root.isFollowable = true := by
  obtain ⟨more, htext⟩ := exists_joinName_text hroot hname
  obtain ⟨before, hsegments, hbefore⟩ := root.segments_joinName hname
  simp only [isFollowable, htext, hsegments, String.utf8ByteSize_append, String.toList_append,
    List.all_append, Bool.and_eq_true, decide_eq_true_eq] at h ⊢
  obtain ⟨⟨⟨-, hsize⟩, hzeros, -⟩, hnames, -⟩ := h
  refine ⟨⟨⟨by simp [hroot], by omega⟩, hzeros⟩, ?_⟩
  rcases hbefore hroot with heq | heq <;> simp [heq, hnames]

/-- What a path with a name leads to is listed under the name in the folder the path leads to. -/
theorem FileTree.list?_of_exists (hroot : root.isEmpty = false) (hname : isName name = true)
    (h : tree.exists (root.joinName name) = true) :
    ∃ names, tree.list? root = some names ∧ name ∈ names := by
  have hplain := (isName_segments hname).2
  obtain ⟨before, hsegments, hbefore⟩ := root.segments_joinName hplain
  unfold FileTree.exists get? resolve? at h
  split at h
  next hfollowable =>
    rw [Path.isAbsolute_joinName hroot hplain, hsegments] at h
    generalize hstart : (if root.isAbsolute then Place.root else ⟨tree.working, []⟩) = start at h
    cases hfound : tree.follow segmentLimit linkLimit start (before ++ [name]) with
    | none => simp [hfound] at h
    | some found =>
      -- The root leads to the place from which the name is followed, with a separator at its end
      -- or without.
      obtain ⟨fuel, links, place, hfollow⟩ := follow_append hfound
      rw [hfollow] at hfound
      obtain ⟨hfolder, hentry, hhere, hpast⟩ := follow_name hname hfound
      have hplace : tree.resolve? root = some place := by
        unfold resolve?
        rw [if_pos (Path.isFollowable_of_joinName hroot hplain hfollowable), hstart]
        rcases hbefore hroot with heq | heq
        · rw [heq, ← List.append_nil before, hfollow, hhere]
        · rw [heq, hfollow, hpast]
      refine ⟨(tree.namesAt place).reverse, ?_, ?_⟩
      · unfold list?
        rw [hplace]
        exact if_pos hfolder
      · exact List.mem_reverse.mpr (mem_namesAt hentry)
  next => cases h

/-! ## Joined names -/

/-- Where a name is joined to a root, a folder is found only directly below it. -/
theorem FileTree.hasSubfolder_iff (hroot : root.isEmpty = false) (hname : isName name = true) :
    tree.HasSubfolder root name ↔ tree.isFolder (root.joinName name) = true := by
  refine ⟨HasSubfolder.isFolder, fun hfolder => ⟨list?_of_exists hroot hname ?_, hfolder⟩⟩
  unfold FileTree.isFolder at hfolder
  unfold FileTree.exists
  split at hfolder
  next hentry => rw [hentry]; rfl
  · cases hfolder

/-! ## What is located -/

/-- The folder has the id for its name and lies directly below the first root with such a
folder. -/
def FolderLayout.IsFirstSubfolder (layout : FolderLayout) (tree : FileTree) (id : String)
    (folder : Path) : Prop :=
  ∃ before root after, layout.searchRoots = before ++ root :: after ∧
    (∀ other ∈ before, ¬ tree.HasSubfolder other id) ∧ tree.HasSubfolder root id ∧
    folder = root.joinName id

theorem FolderLayout.IsFirstSubfolder.isName (ht : tree.IsNamed)
    (h : layout.IsFirstSubfolder tree id folder) : isName id = true := by
  obtain ⟨_, _, _, -, -, hsubfolder, -⟩ := h
  exact hsubfolder.isName ht

/-- For a name, what is located is the folder of that name directly below the first root that has
one. -/
theorem FolderLayout.locate_ok_iff_of_isName
    (hroots : ∀ root ∈ layout.searchRoots, root.isEmpty = false) (hname : isName id = true) :
    layout.locate tree id = .ok folder ↔ layout.IsFirstSubfolder tree id folder := by
  rw [locate_ok_iff]
  refine exists_congr fun before => exists_congr fun root => exists_congr fun after => ?_
  refine and_congr_right fun hsplit => ?_
  rw [hsplit] at hroots
  have hbefore (other : Path) (hother : other ∈ before) : other.isEmpty = false :=
    hroots other (List.mem_append_left _ hother)
  have hroot : root.isEmpty = false := hroots root (List.mem_append_right _ List.mem_cons_self)
  rw [FileTree.hasSubfolder_iff hroot hname]
  refine and_congr_left fun _ => forall₂_congr fun other hother => not_congr ?_
  exact (FileTree.hasSubfolder_iff (hbefore other hother) hname).symm

/-- A context is loaded from the folder that is located for the id. -/
theorem FolderLayout.load_folder (h : layout.load tree libraries d = (.ok context, notices)) :
    layout.locate tree d.id = .ok context.folder ∧
      ∃ a, layout.artifacts tree d.id context.folder = .ok a ∧ context.artifacts = a.all := by
  obtain ⟨bare, hbare, hload⟩ := load_ok_iff.mp h
  obtain ⟨folder, a, bytes, hfolder, hartifacts, -, rfl⟩ := bareContext_ok_iff.mp hbare
  split at hload
  · obtain ⟨s, -, rfl, -⟩ := hload
    exact ⟨hfolder, a, hartifacts, rfl⟩
  · obtain ⟨rfl, -⟩ := hload
    exact ⟨hfolder, a, hartifacts, rfl⟩

/-- For a name, the folder that is located is the one of that name directly below the first root
with such a folder. What is located for anything else is no folder of that name below a root.
Descriptions are read and contexts are loaded where the folder is located, and so both stay
below the roots for names, and for nothing else. -/
theorem FolderLayout.locate_subfolder (ht : tree.IsNamed)
    (hroots : ∀ root ∈ layout.searchRoots, root.isEmpty = false) :
    (isName id = true → ∀ folder,
      layout.locate tree id = .ok folder ↔ layout.IsFirstSubfolder tree id folder) ∧
    ∀ folder, layout.locate tree id = .ok folder →
      (layout.IsFirstSubfolder tree id folder ↔ isName id = true) ∧
      (∀ d, layout.descriptorOf tree id = .ok d → d.folder = folder) ∧
      ∀ libraries d context notices, d.id = id →
        layout.load tree libraries d = (.ok context, notices) → context.folder = folder := by
  refine ⟨fun hname folder => locate_ok_iff_of_isName hroots hname, fun folder hlocate => ?_⟩
  refine ⟨⟨IsFirstSubfolder.isName ht, fun hname => ?_⟩, fun d hd => ?_, ?_⟩
  · exact (locate_ok_iff_of_isName hroots hname).mp hlocate
  · obtain ⟨found, hfound, hread⟩ := descriptorOf_ok_iff.mp hd
    cases hfound.symm.trans hlocate
    exact readFolder_folder hread
  · rintro libraries d context notices rfl hload
    exact Except.ok.inj ((load_folder hload).1.symm.trans hlocate)

/-- Files at paths, in a store of its own. -/
private def filesAt (files : List (String × String)) : FileTree :=
  files.foldl (fun tree (path, text) => tree.write ⟨path⟩ (.file text.toUTF8.data.toList))
    (FileTree.empty "w")

private theorem filesAt_isPlaced (files : List (String × String)) : (filesAt files).IsPlaced :=
  List.foldlRecOn files _ (FileTree.isPlaced_empty "w") fun _ ht _ _ => ht.write

private theorem filesAt_isNamed {files : List (String × String)}
    (hfiles : ∀ file ∈ files, ".." ∉ (Path.mk file.1).steps) : (filesAt files).IsNamed :=
  List.foldlRecOn files _ (FileTree.isNamed_empty "w") fun _ ht file hfile =>
    ht.write (hfiles file hfile)

/-- An extension that is in two roots, below a file that has its name in the first one. -/
private def inTwoRoots : FileTree :=
  filesAt [("extensions/a", ""), ("target/extensions/a/a.so", ""), ("lib/extensions/a/a.so", "")]

/-- The first root with a folder of the name comes before another one. -/
theorem FolderLayout.locate_subfolder_of_two :
    FolderLayout.default.IsFirstSubfolder inTwoRoots "a" ⟨"target/extensions/a"⟩ ∧
      inTwoRoots.HasSubfolder FolderLayout.default.libraryRoot "a" := by
  have ht : inTwoRoots.IsNamed := filesAt_isNamed (by decide +kernel)
  have hroots : ∀ root ∈ FolderLayout.default.searchRoots, root.isEmpty = false := by decide
  have hlocate : FolderLayout.default.locate inTwoRoots "a" = .ok ⟨"target/extensions/a"⟩ := by
    decide +kernel
  refine ⟨((locate_subfolder ht hroots).1 (by decide) _).mp hlocate, ?_⟩
  exact (FileTree.hasSubfolder_iff (by decide) (by decide)).mpr (by decide +kernel)

/-- Ids with separators are found in nested folders, and ids that lead up, or start at the root of
the store, above the roots. Descriptions are read there. -/
theorem FolderLayout.locate_leaves_roots :
    let tree := filesAt [("extensions/a/b/extension.yaml", "id: b")]
    ∃ d, FolderLayout.default.locate tree "a/b" = .ok ⟨"extensions/a/b"⟩ ∧
      FolderLayout.default.descriptorOf tree "a/b" = .ok d ∧ d.folder = ⟨"extensions/a/b"⟩ ∧
      FolderLayout.default.locate tree ".." = .ok ⟨"extensions/.."⟩ ∧
      FolderLayout.default.locate tree "/" = .ok ⟨"/"⟩ ∧
      ∀ id ∈ ["a/b", "..", "/"], ∀ folder,
        ¬ FolderLayout.default.IsFirstSubfolder tree id folder := by
  intro tree
  have ht : tree.IsNamed := filesAt_isNamed (by decide +kernel)
  refine ⟨{ Descriptor.ofId "b" with folder := ⟨"extensions/a/b"⟩ }, by decide +kernel,
    by decide +kernel, rfl, by decide +kernel, by decide +kernel, fun id hid folder hfirst => ?_⟩
  have hnames : ∀ id ∈ ["a/b", "..", "/"], isName id = false := by decide
  exact Bool.false_ne_true ((hnames id hid).symm.trans (hfirst.isName ht))

/-! ## What is scanned -/

/-- The folder of the name directly below the main root has a manifest that can be parsed, with
the name for its id, which is not blank. It gives the description. -/
structure FolderLayout.Describes (layout : FolderLayout) (tree : FileTree) (name : String)
    (d : Descriptor) : Prop where
  subfolder : tree.HasSubfolder layout.root name
  manifest : tree.isFile ((layout.root.joinName name).joinName layout.manifestFile) = true
  parsed : ∃ text parsed,
    tree.readText? ((layout.root.joinName name).joinName layout.manifestFile) = some text ∧
    Descriptor.parseYaml? text = some parsed ∧ isBlankText parsed.id = false ∧ parsed.id = name ∧
    d = parsed.inFolder (layout.root.joinName name)

theorem FolderLayout.describes_iff (ht : tree.IsNamed) : layout.Describes tree name d ↔
    tree.HasSubfolder layout.root name ∧
      layout.readFolder tree (layout.root.joinName name) = .ok d := by
  rw [readFolder_ok_iff, readManifest_ok_iff]
  constructor
  · rintro ⟨hsubfolder, hmanifest, text, parsed, htext, hparse, hblank, hid, rfl⟩
    refine ⟨hsubfolder, ⟨hmanifest, text, parsed, htext, hparse, hblank, rfl⟩, ?_⟩
    rw [Path.fileName?_joinName (hsubfolder.isName ht)]
    exact hid.symm
  · rintro ⟨hsubfolder, ⟨hmanifest, text, parsed, htext, hparse, hblank, rfl⟩, hid⟩
    rw [Path.fileName?_joinName (hsubfolder.isName ht)] at hid
    exact ⟨hsubfolder, hmanifest, text, parsed, htext, hparse, hblank, hid.symm, rfl⟩

/-- The events of a scan are those of the folders directly below the main root that have a
manifest with their name for its id, and there is one for each. An event disables exactly where
the marker lies in the folder. What is looked up for its id, and what is loaded for it, is what
the scan has found, whatever there is below the other roots. -/
theorem FolderLayout.scan_exact (ht : tree.IsPlaced) (hnamed : tree.IsNamed) :
    (∀ e, e ∈ (layout.scan tree).1 ↔ ∃ name d, layout.Describes tree name d ∧
      e = .of (if tree.exists ((layout.root.joinName name).joinName layout.disableMarker)
        then .disable else .enable) d) ∧
    ((layout.scan tree).1.map Event.id).Nodup ∧
    ∀ e ∈ (layout.scan tree).1, layout.locate tree e.id = .ok e.folder ∧
      layout.descriptorOf tree e.id = .ok e.descriptor ∧
      ∀ libraries d context notices, d.id = e.id →
        layout.load tree libraries d = (.ok context, notices) → context.folder = e.folder ∧
          ∃ a, layout.artifacts tree e.id e.folder = .ok a ∧ context.artifacts = a.all := by
  have hmem (e : Event) : e ∈ (layout.scan tree).1 ↔ ∃ name d, layout.Describes tree name d ∧
      e = .of (if layout.isDisabled tree (layout.root.joinName name) then .disable else .enable)
        d := by
    simp only [mem_scan_iff, scanFolder_ok_iff, describes_iff hnamed, and_assoc, exists_and_left]
  refine ⟨hmem, scan_ids_nodup ht hnamed, fun e he => ?_⟩
  obtain ⟨name, d, hd, rfl⟩ := (hmem e).mp he
  obtain ⟨hsubfolder, hread⟩ := (describes_iff hnamed).mp hd
  have hid : name = d.id := by
    have hname := (readFolder_ok_iff.mp hread).2
    rwa [Path.fileName?_joinName (hsubfolder.isName hnamed)] at hname
  have hfolder : d.folder = layout.root.joinName d.id := hid ▸ readFolder_folder hread
  have hlocate : layout.locate tree d.id = .ok d.folder :=
    locate_ok_iff.mpr ⟨[], layout.root, _, rfl, by simp, hid ▸ hsubfolder.isFolder, hfolder⟩
  refine ⟨hlocate, ?_, ?_⟩
  · exact descriptorOf_ok_iff.mpr ⟨_, hlocate, hfolder ▸ hid ▸ hread⟩
  · rintro libraries d' context notices hsame hload
    obtain ⟨hlocate', a, hartifacts, hall⟩ := load_folder hload
    rw [hsame] at hlocate' hartifacts
    have hcontext : context.folder = d.folder := Except.ok.inj (hlocate'.symm.trans hlocate)
    rw [hcontext] at hartifacts
    exact ⟨hcontext, a, hartifacts, hall⟩

/-- Folders with and without a marker, one with the manifest of another, a file beside them, and
a folder of a name that the main root has too. -/
private def someFolders : FileTree :=
  filesAt [("extensions/a/extension.yaml", "id: a\nversion: 1.0.0"),
    ("extensions/b/extension.yaml", "id: b"), ("extensions/b/.disabled", ""),
    ("extensions/c/extension.yaml", "id: a"), ("extensions/d", ""),
    ("lib/extensions/a/extension.yaml", "id: a\nversion: 2.0.0")]

/-- Two folders are told of, and each is the one that is found for its id. -/
theorem FolderLayout.scan_exact_of_two :
    (FolderLayout.default.scan someFolders).1.map (fun e => (e.id, e.change, e.folder)) =
        [("b", .disable, ⟨"extensions/b"⟩), ("a", .enable, ⟨"extensions/a"⟩)] ∧
      ∀ e ∈ (FolderLayout.default.scan someFolders).1,
        (∃ name, FolderLayout.default.Describes someFolders name e.descriptor) ∧
        FolderLayout.default.locate someFolders e.id = .ok e.folder ∧
        FolderLayout.default.descriptorOf someFolders e.id = .ok e.descriptor := by
  have ht : someFolders.IsPlaced := filesAt_isPlaced _
  have hnamed : someFolders.IsNamed := filesAt_isNamed (by decide +kernel)
  refine ⟨by decide +kernel, fun e he => ?_⟩
  obtain ⟨name, d, hd, rfl⟩ := ((scan_exact ht hnamed).1 e).mp he
  obtain ⟨hlocate, hread, -⟩ := (scan_exact ht hnamed).2.2 _ he
  exact ⟨⟨name, hd⟩, hlocate, hread⟩

end ExtensionHost
