import ExtensionHost.Proofs.Artifacts
import ExtensionHost.Proofs.Opening

/-!
# The libraries of an extension

A context that is built with its libraries has opened and kept those of its artifacts that are
told to be libraries, and has the factories of the primary one. Files are told to be artifacts
in another comparison of endings than artifacts are told to be libraries in: one whose ending is
written with capitals is an artifact, and no library.
-/

namespace ExtensionHost

variable {layout : FolderLayout} {tree : FileTree} {libraries : Path → Option Library}
variable {d : Descriptor} {context : Context} {notices : List Notice}

/-- A context that is built with libraries has opened and kept those of its artifacts whose
ending is written like that of a native library, each once and in their order. Its factories are
those that the primary artifact has registered, where that is a library and does not tell
another version than the host's, and there are none otherwise. All artifacts with such an ending
have been kept exactly where none of these endings is written with capitals. -/
theorem FolderLayout.load_libraries (hnative : layout.loadNativeArtifacts = true)
    (h : layout.load tree libraries d = (.ok context, notices)) :
    ∃ s, loadLibraries libraries d.id context.artifacts = (.ok (), s) ∧
      context.libraries = s.kept ∧ context.factories = s.factories ∧ s.opened.Nodup ∧
      s.Complete libraries context.artifacts ∧ s.IsGuarded libraries context.artifacts ∧
      (context.libraries = context.artifacts.filter hasLibraryEnding ↔
        ∀ p ∈ context.artifacts, hasLibraryEnding p = true → hasSmallEnding p = true) := by
  obtain ⟨bare, hbare, hload⟩ := load_ok_iff.mp h
  obtain ⟨folder, a, bytes, -, hartifacts, -, rfl⟩ := bareContext_ok_iff.mp hbare
  rw [if_pos hnative] at hload
  obtain ⟨s, hs, rfl, -⟩ := hload
  obtain ⟨hcomplete, hguarded⟩ := loadLibraries_meets.done_of_from hs
  have hopened : s.opened.Nodup := hcomplete.opened ▸ (artifacts_nodup hartifacts).filter isLibrary
  refine ⟨s, hs, rfl, rfl, hopened, hcomplete, hguarded, ?_⟩
  rw [← filter_isLibrary_iff, ← hcomplete.kept]

/-- A folder with a primary artifact, two more libraries and something else. -/
private def fourArtifacts : FileTree :=
  ["a.so", "b.dll", "c.pkg", "d.dylib"].foldl
    (fun tree name => tree.write (Path.joinName ⟨"extensions/a"⟩ name) (.file []))
    (FileTree.empty "w")

/-- A host on which every library can be opened, and would register a factory. -/
private def anyLibrary (p : Path) : Option Library :=
  some ⟨some hostAbiVersion, some [⟨p.text, [], false⟩]⟩

/-- The places of the four artifacts. -/
private def fourPlaces : List Path :=
  [⟨"w/extensions/a/a.so"⟩, ⟨"w/extensions/a/b.dll"⟩, ⟨"w/extensions/a/c.pkg"⟩,
    ⟨"w/extensions/a/d.dylib"⟩]

private theorem fourArtifacts_gathered :
    FolderLayout.default.artifacts fourArtifacts "a" ⟨"extensions/a"⟩ =
      .ok ⟨⟨"extensions/a/a.so"⟩, fourPlaces⟩ := by
  have hlist : fourArtifacts.list? ⟨"extensions/a"⟩ =
      some ["d.dylib", "c.pkg", "b.dll", "a.so"] := by decide +kernel
  have hnames : FolderLayout.default.artifactNames fourArtifacts ⟨"extensions/a"⟩
      ["d.dylib", "c.pkg", "b.dll", "a.so"] = ["d.dylib", "c.pkg", "b.dll", "a.so"] := by
    decide +kernel
  have hsorted : (["d.dylib", "c.pkg", "b.dll", "a.so"].mergeSort fun a b => !(b < a)) =
      ["a.so", "b.dll", "c.pkg", "d.dylib"] :=
    mergeSort_eq_of_pairwise (by decide) (by decide +kernel)
  unfold FolderLayout.artifacts
  rw [hlist]
  dsimp only
  rw [hnames, hsorted]
  decide +kernel

/-- Of four artifacts three are libraries, which are kept, and the first of them has registered its
factory. -/
theorem FolderLayout.load_libraries_of_four :
    ∃ context notices,
      FolderLayout.default.load fourArtifacts anyLibrary (.ofId "a") = (.ok context, notices) ∧
      context.artifacts.length = 4 ∧
      context.libraries = [⟨"w/extensions/a/a.so"⟩, ⟨"w/extensions/a/b.dll"⟩,
        ⟨"w/extensions/a/d.dylib"⟩] ∧
      context.libraries = context.artifacts.filter hasLibraryEnding ∧
      context.factories.entries.map (·.1) = ["w/extensions/a/a.so"] := by
  have hfolder : FolderLayout.default.locate fourArtifacts "a" = .ok ⟨"extensions/a"⟩ := by
    decide +kernel
  have hread : fourArtifacts.read? ⟨"extensions/a/a.so"⟩ = some [] := by decide +kernel
  obtain ⟨bare, hbare, hall⟩ : ∃ bare, FolderLayout.default.bareContext fourArtifacts (.ofId "a") =
      .ok bare ∧ bare.artifacts = fourPlaces :=
    ⟨_, bareContext_ok_iff.mpr ⟨_, _, _, hfolder, fourArtifacts_gathered, hread, rfl⟩, rfl⟩
  have hopens : (loadLibraries anyLibrary "a" fourPlaces).1.toOption = some () := by
    decide +kernel
  have htable : (loadLibraries anyLibrary "a" fourPlaces).2.factories.entries.map (·.1) =
      ["w/extensions/a/a.so"] := by
    decide +kernel
  cases hs : loadLibraries anyLibrary "a" fourPlaces with
  | mk outcome s =>
    rw [hs] at hopens htable
    cases outcome with
    | error e => cases hopens
    | ok =>
      have hload := load_ok_iff.mpr ⟨bare, hbare, s, hall ▸ hs, rfl, rfl⟩
      obtain ⟨s', -, hlibraries, -, -, hcomplete, -, hiff⟩ := load_libraries rfl hload
      refine ⟨_, s.notices, hload, congrArg List.length hall, ?_, hiff.mpr ?_, htable⟩
      · rw [hlibraries, hcomplete.kept, hall]
        decide +kernel
      · rw [hall]
        decide +kernel

/-- An artifact whose ending is written in capitals has the ending of a library, and is not
opened. -/
theorem FolderLayout.load_passes_over_capitals :
    let tree := (FileTree.empty "w").write ⟨"extensions/a/a.SO"⟩ (.file [])
    ∃ context notices, FolderLayout.default.load tree anyLibrary (.ofId "a") =
        (.ok context, notices) ∧
      context.artifacts.filter hasLibraryEnding = [⟨"w/extensions/a/a.SO"⟩] ∧
      context.libraries = [] := by
  have hrun : (FolderLayout.default.load
      ((FileTree.empty "w").write ⟨"extensions/a/a.SO"⟩ (.file [])) anyLibrary
        (.ofId "a")).1.toOption.map (fun context =>
          (context.artifacts.filter hasLibraryEnding, context.libraries)) =
      some ([⟨"w/extensions/a/a.SO"⟩], []) := by
    decide +kernel
  intro tree
  cases hload : FolderLayout.default.load tree anyLibrary (.ofId "a") with
  | mk outcome notices =>
    rw [hload] at hrun
    cases outcome with
    | error e => cases hrun
    | ok context =>
      obtain ⟨hartifacts, hlibraries⟩ := Prod.mk.inj (Option.some.inj hrun)
      exact ⟨context, notices, rfl, hartifacts, hlibraries⟩

end ExtensionHost
