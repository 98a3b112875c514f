import ExtensionHost.Proofs.ListingOrder
import ExtensionHost.Proofs.Opening
import ExtensionHost.Proofs.Requests

/-!
# The artifacts of a folder

Which artifacts there are, and which of them is the primary one, is told by the entries of a
folder and not by their order. There is a result exactly where one artifact has the id in its
name. Then the result holds every place that an artifact leads to once: that of the primary one
first, and the others in the order of their names.
-/

namespace ExtensionHost

variable {layout : FolderLayout} {tree tree' : FileTree} {id : String} {folder : Path}
variable {names files : List String} {a : Artifacts}

/-! ## Artifact files -/

/-- There is an artifact file of the name in a folder. -/
structure FolderLayout.HasArtifact (layout : FolderLayout) (tree : FileTree) (folder : Path)
    (name : String) : Prop where
  listed : ∃ names, tree.list? folder = some names ∧ name ∈ names
  isFile : tree.isFile (folder.joinName name) = true
  ending : layout.isArtifact (folder.joinName name) = true

/-- There is an artifact file of the name in a folder, and the id is in its name. -/
def FolderLayout.HasCandidate (layout : FolderLayout) (tree : FileTree) (folder : Path)
    (id name : String) : Prop :=
  layout.HasArtifact tree folder name ∧ id.toList <:+: name.toList

theorem FolderLayout.mem_artifactNames {name : String} (hlist : tree.list? folder = some names) :
    name ∈ layout.artifactNames tree folder names ↔ layout.HasArtifact tree folder name := by
  simp only [artifactNames, List.mem_filter, Bool.and_eq_true]
  constructor
  · rintro ⟨hname, hfile, hending⟩
    exact ⟨⟨names, hlist, hname⟩, hfile, hending⟩
  · rintro ⟨⟨names', hlist', hname⟩, hfile, hending⟩
    cases hlist.symm.trans hlist'
    exact ⟨hname, hfile, hending⟩

/-- What is gathered are the artifact files of a folder, in the order of their names. -/
theorem FolderLayout.artifacts_of_list (ht : tree.IsPlaced)
    (hlist : tree.list? folder = some names) :
    ∃ files : List String, files.Pairwise (· < ·) ∧
      (∀ name, name ∈ files ↔ layout.HasArtifact tree folder name) ∧
      layout.artifacts tree id folder = gatherArtifacts tree id folder files := by
  let files := (layout.artifactNames tree folder names).mergeSort fun a b => !(b < a)
  have hperm : files.Perm (layout.artifactNames tree folder names) := List.mergeSort_perm _ _
  have hnodup : files.Nodup := hperm.nodup_iff.mpr ((ht.list? hlist).filter _)
  refine ⟨files, ?_, fun name => ?_, ?_⟩
  · refine (pairwise_mergeSort_names _).imp₂ (fun a b hle hne => ?_) hnodup
    exact String.not_le.mp fun hge => hne (String.le_antisymm hle hge)
  · rw [hperm.mem_iff, mem_artifactNames hlist]
  · unfold artifacts
    rw [hlist]

/-- A file leads to a place. -/
theorem FileTree.canonical?_of_isFile {p : Path} (hp : tree.isFile p = true) :
    tree.canonical? p = some (tree.settled p) := by
  unfold settled canonical?
  cases hplace : tree.resolve? p with
  | none => simp [isFile, get?, hplace] at hp
  | some place => rfl

theorem FileTree.read?_of_isFile {p : Path} (hp : tree.isFile p = true) :
    ∃ bytes, tree.read? p = some bytes := by
  unfold isFile at hp
  unfold read?
  split at hp
  next bytes hbytes => exact ⟨bytes, by rw [hbytes]⟩
  · cases hp

/-! ## What is gathered -/

/-- The artifacts are those of a folder, and the one of the name is the primary one. -/
structure FolderLayout.Gathered (layout : FolderLayout) (tree : FileTree) (folder : Path)
    (name : String) (a : Artifacts) : Prop where
  primary : a.primary = folder.joinName name
  first : ∃ location, tree.canonical? (folder.joinName name) = some location ∧
    a.all.head? = some location
  inOrder : ∃ others locations, others.Pairwise (· < ·) ∧
    (∀ other, other ∈ others ↔ layout.HasArtifact tree folder other ∧ other ≠ name) ∧
    (name :: others).map (fun n => tree.canonical? (folder.joinName n)) = locations.map some ∧
    FirstsOf a.all locations

/-- All that gathering the artifacts of a folder can come to. -/
inductive FolderLayout.Gathering (layout : FolderLayout) (tree : FileTree) (id : String)
    (folder : Path) : Except LoadError Artifacts → Prop
  | missing (hnone : ∀ name, ¬ layout.HasCandidate tree folder id name) :
    Gathering layout tree id folder (.error (.primaryMissing id folder.text))
  | ambiguous {several : List String} (hseveral : 2 ≤ several.length)
    (hsorted : several.Pairwise (· < ·))
    (hmem : ∀ name, name ∈ several ↔ layout.HasCandidate tree folder id name) :
    Gathering layout tree id folder (.error (.primaryAmbiguous id folder.text
      (several.map fun n => (folder.joinName n).text)))
  | gathered {name : String} {a : Artifacts}
    (honly : ∀ other, layout.HasCandidate tree folder id other ↔ other = name)
    (ha : layout.Gathered tree folder name a) : Gathering layout tree id folder (.ok a)

theorem FolderLayout.gatherArtifacts_gathering (hsorted : files.Pairwise (· < ·))
    (hfiles : ∀ name, name ∈ files ↔ layout.HasArtifact tree folder name) :
    layout.Gathering tree id folder (gatherArtifacts tree id folder files) := by
  have hmem (name : String) : name ∈ files.filter (containsText · id) ↔
      layout.HasCandidate tree folder id name := by
    rw [List.mem_filter, hfiles, HasCandidate, containsText, containsBlock_iff]
  unfold gatherArtifacts
  split
  next hfilter =>
    rw [hfilter] at hmem
    exact .missing fun name hname => absurd ((hmem name).mpr hname) List.not_mem_nil
  next name hfilter =>
    rw [hfilter] at hmem
    have honly (other : String) : layout.HasCandidate tree folder id other ↔ other = name := by
      rw [← hmem, List.mem_singleton]
    have hname : layout.HasArtifact tree folder name := ((honly name).mpr rfl).1
    let others := files.filter fun other => !containsText other id
    let locations := (name :: others).map fun n => tree.settled (folder.joinName n)
    have hothers (other : String) :
        other ∈ others ↔ layout.HasArtifact tree folder other ∧ other ≠ name := by
      rw [List.mem_filter, hfiles, Bool.not_eq_true', containsText, ← Bool.not_eq_true,
        containsBlock_iff, ne_eq, ← honly]
      exact and_congr_right fun hother => not_congr ⟨fun hid => ⟨hother, hid⟩, And.right⟩
    refine .gathered honly ⟨rfl, ⟨_, FileTree.canonical?_of_isFile hname.isFile, rfl⟩,
      others, locations, hsorted.filter _, hothers, ?_, keepFirst_firsts locations⟩
    rw [List.map_map]
    refine List.map_congr_left fun n hn => FileTree.canonical?_of_isFile ?_
    rcases List.mem_cons.mp hn with rfl | hn
    · exact hname.isFile
    · exact ((hothers n).mp hn).1.isFile
  next several hnil hone =>
    refine .ambiguous ?_ (hsorted.filter _) hmem
    match files.filter (containsText · id), hnil, hone with
    | [], hnil, _ => exact absurd rfl hnil
    | [name], _, hone => exact absurd rfl (hone name)
    | _ :: _ :: _, _, _ => simp

theorem FolderLayout.artifacts_nodup (h : layout.artifacts tree id folder = .ok a) :
    a.all.Nodup := by
  unfold artifacts at h
  split at h
  · cases h
  · unfold gatherArtifacts at h
    split at h <;> cases h
    exact (keepFirst_firsts _).nodup

theorem FolderLayout.artifacts_gathering (ht : tree.IsPlaced)
    (hlist : tree.list? folder = some names) :
    layout.Gathering tree id folder (layout.artifacts tree id folder) := by
  obtain ⟨files, hsorted, hfiles, hgather⟩ := artifacts_of_list ht hlist
  rw [hgather]
  exact gatherArtifacts_gathering hsorted hfiles

namespace FolderLayout.Gathering

variable {r : Except LoadError Artifacts}

/-- Several candidates in order are at least two. -/
theorem exists_ne {several : List String} (hseveral : 2 ≤ several.length)
    (hsorted : several.Pairwise (· < ·))
    (hmem : ∀ name, name ∈ several ↔ layout.HasCandidate tree folder id name) :
    ∃ name name', layout.HasCandidate tree folder id name ∧
      layout.HasCandidate tree folder id name' ∧ name ≠ name' := by
  match several, hseveral with
  | name :: name' :: rest, _ =>
    have hlt : name < name' := (List.pairwise_cons.mp hsorted).1 name' List.mem_cons_self
    refine ⟨name, name', (hmem name).mp List.mem_cons_self,
      (hmem name').mp (List.mem_cons_of_mem _ List.mem_cons_self), fun heq => ?_⟩
    exact String.lt_irrefl name' (heq ▸ hlt)

theorem isOk_iff (h : layout.Gathering tree id folder r) :
    (∃ a, r = .ok a) ↔ ∃! name, layout.HasCandidate tree folder id name := by
  cases h with
  | missing hnone =>
    refine iff_of_false (fun ⟨a, ha⟩ => nomatch ha) fun ⟨name, hname, _⟩ => hnone name hname
  | ambiguous hseveral hsorted hmem =>
    obtain ⟨name, name', hname, hname', hne⟩ := exists_ne hseveral hsorted hmem
    refine iff_of_false (fun ⟨a, ha⟩ => nomatch ha) fun hunique => ?_
    exact hne (hunique.unique hname hname')
  | gathered honly ha =>
    exact iff_of_true ⟨_, rfl⟩ ⟨_, (honly _).mpr rfl, fun other hother => (honly other).mp hother⟩

theorem isMissing_iff (h : layout.Gathering tree id folder r) :
    r = .error (.primaryMissing id folder.text) ↔
      ∀ name, ¬ layout.HasCandidate tree folder id name := by
  cases h with
  | missing hnone => exact iff_of_true rfl hnone
  | ambiguous hseveral hsorted hmem =>
    obtain ⟨name, -, hname, -⟩ := exists_ne hseveral hsorted hmem
    exact iff_of_false (fun heq => nomatch heq) fun hnone => hnone name hname
  | gathered honly ha =>
    exact iff_of_false (fun heq => nomatch heq) fun hnone => hnone _ ((honly _).mpr rfl)

theorem isAmbiguous_iff (h : layout.Gathering tree id folder r) :
    (∃ several : List String, several.Pairwise (· < ·) ∧
      (∀ name, name ∈ several ↔ layout.HasCandidate tree folder id name) ∧
      r = .error (.primaryAmbiguous id folder.text
        (several.map fun name => (folder.joinName name).text))) ↔
      ∃ name name', layout.HasCandidate tree folder id name ∧
        layout.HasCandidate tree folder id name' ∧ name ≠ name' := by
  cases h with
  | missing hnone =>
    refine iff_of_false (fun ⟨_, _, _, heq⟩ => nomatch heq) fun ⟨name, _, hname, _⟩ => ?_
    exact hnone name hname
  | ambiguous hseveral hsorted hmem =>
    exact iff_of_true ⟨_, hsorted, hmem, rfl⟩ (exists_ne hseveral hsorted hmem)
  | gathered honly ha =>
    refine iff_of_false (fun ⟨_, _, _, heq⟩ => nomatch heq)
      fun ⟨name, name', hname, hname', hne⟩ => ?_
    exact hne (((honly name).mp hname).trans ((honly name').mp hname').symm)

end FolderLayout.Gathering

/-! ## Contexts -/

/-- The context of a folder is built wherever its artifacts are gathered. -/
theorem FolderLayout.bareContext_of_gathered {d : Descriptor} {name : String}
    (hfolder : layout.locate tree d.id = .ok folder)
    (hartifacts : layout.artifacts tree d.id folder = .ok a)
    (hname : layout.HasArtifact tree folder name) (ha : layout.Gathered tree folder name a) :
    ∃ context bytes, layout.bareContext tree d = .ok context ∧ context.artifacts = a.all ∧
      tree.read? (folder.joinName name) = some bytes ∧
      context.fingerprint = some (fingerprint bytes) := by
  obtain ⟨bytes, hbytes⟩ := FileTree.read?_of_isFile hname.isFile
  have hprimary : tree.read? a.primary = some bytes := ha.primary ▸ hbytes
  exact ⟨_, bytes, bareContext_ok_iff.mpr ⟨folder, a, bytes, hfolder, hartifacts, hprimary, rfl⟩,
    rfl, hbytes, rfl⟩

/-- In a folder, however it lists its entries, artifacts are gathered exactly where one artifact
file has the id in its name. It is an error of its own if none has, and another one, with all of
them in order, if several have. What is gathered is the place of that artifact, then the places
of the others in the order of their names, none twice and none left out. The context of the
extension is built with it, and the primary artifact comes first. -/
theorem FolderLayout.artifacts_gathered (ht : tree.IsPlaced)
    (hlist : tree.list? folder = some names) :
    (∀ tree', tree.SameEntries tree' →
      layout.artifacts tree' id folder = layout.artifacts tree id folder) ∧
    ((∃ a, layout.artifacts tree id folder = .ok a) ↔
      ∃! name, layout.HasCandidate tree folder id name) ∧
    (layout.artifacts tree id folder = .error (.primaryMissing id folder.text) ↔
      ∀ name, ¬ layout.HasCandidate tree folder id name) ∧
    ((∃ several : List String, several.Pairwise (· < ·) ∧
      (∀ name, name ∈ several ↔ layout.HasCandidate tree folder id name) ∧
      layout.artifacts tree id folder = .error (.primaryAmbiguous id folder.text
        (several.map fun name => (folder.joinName name).text))) ↔
      ∃ name name', layout.HasCandidate tree folder id name ∧
        layout.HasCandidate tree folder id name' ∧ name ≠ name') ∧
    ∀ a, layout.artifacts tree id folder = .ok a →
      ∃ name, layout.HasCandidate tree folder id name ∧ layout.Gathered tree folder name a ∧
        ∀ d : Descriptor, d.id = id → layout.locate tree id = .ok folder →
          ∃ context bytes, layout.bareContext tree d = .ok context ∧ context.artifacts = a.all ∧
            tree.read? (folder.joinName name) = some bytes ∧
            context.fingerprint = some (fingerprint bytes) := by
  have hgathering : layout.Gathering tree id folder (layout.artifacts tree id folder) :=
    artifacts_gathering ht hlist
  refine ⟨fun tree' hs => congrFun (congrFun (artifacts_sameEntries hs) id) folder,
    hgathering.isOk_iff, hgathering.isMissing_iff, hgathering.isAmbiguous_iff, fun a hok => ?_⟩
  generalize hresult : layout.artifacts tree id folder = r at hgathering
  rw [hresult] at hok
  cases hok
  cases hgathering with
  | @gathered name _ honly ha =>
    have hname := (honly name).mpr rfl
    refine ⟨name, hname, ha, ?_⟩
    rintro d rfl hfolder
    exact bareContext_of_gathered hfolder hresult hname.1 ha

/-- A folder with the primary artifact of an extension, a link to it, a link to a file elsewhere,
and two entries with the id in their names that are no artifact files. -/
private def linkedFolder : FileTree :=
  [("f/b.so", Entry.link (.path ⟨"echo.pkg"⟩)), ("f/echo.pkg", .file []),
    ("f/a.pkg", .link (.path ⟨"../g/real.so"⟩)), ("g/real.so", .file []),
    ("f/echo.txt", .file []), ("f/echo.so", .folder)].foldl
    (fun tree (text, entry) => tree.write ⟨text⟩ entry) (FileTree.empty "w")

private theorem linkedFolder_artifacts :
    FolderLayout.default.artifacts linkedFolder "echo" ⟨"f"⟩ =
      .ok ⟨⟨"f/echo.pkg"⟩, [⟨"w/f/echo.pkg"⟩, ⟨"w/g/real.so"⟩]⟩ := by
  have hlist : linkedFolder.list? ⟨"f"⟩ =
      some ["echo.so", "echo.txt", "a.pkg", "echo.pkg", "b.so"] := by decide +kernel
  have hnames : FolderLayout.default.artifactNames linkedFolder ⟨"f"⟩
      ["echo.so", "echo.txt", "a.pkg", "echo.pkg", "b.so"] = ["a.pkg", "echo.pkg", "b.so"] := by
    decide +kernel
  have hsorted : (["a.pkg", "echo.pkg", "b.so"].mergeSort fun a b => !(b < a)) =
      ["a.pkg", "b.so", "echo.pkg"] :=
    mergeSort_eq_of_pairwise (by decide) (by decide +kernel)
  unfold FolderLayout.artifacts
  rw [hlist]
  dsimp only
  rw [hnames, hsorted]
  decide +kernel

/-- The link to the primary artifact adds nothing, and the other link counts as the file that it
leads to. -/
theorem FolderLayout.artifacts_gathered_with_links :
    ∃ name a, FolderLayout.default.Gathered linkedFolder ⟨"f"⟩ name a ∧
      a.all = [⟨"w/f/echo.pkg"⟩, ⟨"w/g/real.so"⟩] ∧
      ∀ tree', linkedFolder.SameEntries tree' →
        FolderLayout.default.artifacts tree' "echo" ⟨"f"⟩ = .ok a := by
  have ht : linkedFolder.IsPlaced := by decide +kernel
  have hlist : linkedFolder.list? ⟨"f"⟩ =
      some ["echo.so", "echo.txt", "a.pkg", "echo.pkg", "b.so"] := by decide +kernel
  obtain ⟨hany, -, -, -, hok⟩ := artifacts_gathered ht hlist
  obtain ⟨name, -, ha, -⟩ := hok _ linkedFolder_artifacts
  exact ⟨name, _, ha, rfl, fun tree' hs => (hany tree' hs).trans linkedFolder_artifacts⟩

end ExtensionHost
