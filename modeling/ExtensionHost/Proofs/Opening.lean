import ExtensionHost.Loading

/-!
# Opening libraries

The artifacts of an extension are gone through once, in order. Those whose ending is written
exactly like that of a native library are opened and kept. No library but the primary artifact
is ever asked to register factories, and that one only after its version was found to be that of
the host.
-/

namespace ExtensionHost

variable {libraries : Path → Option Library} {id : String} {isPrimary : Bool} {p : Path}
variable {artifacts : List Path} {s s' : LibraryLoad}

/-! ## Steps and what they come to -/

namespace Opening

variable {α β : Type} {done done' : α → LibraryLoad → Prop} {failed failed' : LibraryLoad → Prop}

/-- What a step comes to meets one condition if it is done, and another if it has failed. -/
def Meets (x : Opening α) (s : LibraryLoad) (done : α → LibraryLoad → Prop)
    (failed : LibraryLoad → Prop) : Prop :=
  match x.from s with
  | (.ok a, s') => done a s'
  | (.error _, s') => failed s'

theorem meets_pure {a : α} (h : done a s) : Meets (pure a) s done failed := h

theorem meets_throw {e : LoadError} (h : failed s) : Meets (throw e) s done failed := h

theorem meets_modify {f : LibraryLoad → LibraryLoad} {done : Unit → LibraryLoad → Prop}
    (h : done () (f s)) : Meets (modify f) s done failed := h

theorem meets_bind {x : Opening α} {f : α → Opening β} {done : β → LibraryLoad → Prop}
    (h : x.Meets s (fun a s₁ => (f a).Meets s₁ done failed) failed) :
    Meets (x >>= f) s done failed := by
  unfold Meets at h ⊢
  rw [from_bind]
  cases hx : x.from s with
  | mk outcome s₁ =>
    rw [hx] at h
    cases outcome <;> exact h

theorem Meets.imp {x : Opening α} (hx : x.Meets s done failed)
    (hdone : ∀ a s', done a s' → done' a s') (hfailed : ∀ s', failed s' → failed' s') :
    x.Meets s done' failed' := by
  unfold Meets at hx ⊢
  split at hx
  · exact hdone _ _ hx
  · exact hfailed _ hx

theorem Meets.done_of_from {x : Opening α} {a : α} (hx : x.Meets s done failed)
    (h : x.from s = (.ok a, s')) : done a s' := by
  unfold Meets at hx
  rwa [h] at hx

end Opening

/-! ## Calls of libraries -/

/-- The library that a call opens. -/
def NativeCall.opened? : NativeCall → Option Path
  | .opens p => some p
  | _ => none

/-- The library that a call lets register its factories. -/
def NativeCall.registered? : NativeCall → Option Path
  | .registers p => some p
  | _ => none

/-- The libraries that were opened, in order. -/
def LibraryLoad.opened (s : LibraryLoad) : List Path :=
  s.calls.filterMap NativeCall.opened?

/-- The libraries that were let register their factories, in order. -/
def LibraryLoad.registered (s : LibraryLoad) : List Path :=
  s.calls.filterMap NativeCall.registered?

/-- Nothing but notices and questions for a version has been added. -/
structure LibraryLoad.Same (s s' : LibraryLoad) : Prop where
  opened : s'.opened = s.opened
  registered : s'.registered = s.registered
  kept : s'.kept = s.kept
  factories : s'.factories = s.factories

/-- Whether a library may bring in factories: if it tells its version, it is that of the
host. -/
def Library.fits (l : Library) : Bool :=
  l.abiVersion.all (· == hostAbiVersion)

theorem Library.askVersion_meets (l : Library) :
    (l.askVersion id p).Meets s (fun _ s' => l.fits = true ∧ s.Same s') s.Same := by
  unfold askVersion fits
  split
  next hversion =>
    rw [hversion]
    exact Opening.meets_modify ⟨rfl, ⟨rfl, rfl, rfl, rfl⟩⟩
  next version hversion =>
    rw [hversion]
    apply Opening.meets_bind
    apply Opening.meets_modify
    have hsame : s.Same { s with calls := s.calls ++ [.asksVersion p] } := by
      refine ⟨?_, ?_, rfl, rfl⟩
      · simp [LibraryLoad.opened, NativeCall.opened?]
      · simp [LibraryLoad.registered, NativeCall.registered?]
    split
    · exact Opening.meets_throw hsame
    next hhost =>
      exact Opening.meets_pure ⟨by simpa using hhost, hsame⟩

/-- What a library has brought in: it was let register its factories, and they were put into
the table. -/
structure Library.Registered (l : Library) (p : Path) (s s' : LibraryLoad) : Prop where
  registered : s'.registered = s.registered ++ [p]
  factories : ∃ factories, l.factories = some factories ∧
    s'.factories = (s.factories.insertAll factories).1
  opened : s'.opened = s.opened
  kept : s'.kept = s.kept

theorem Library.register_meets (l : Library) :
    (l.register id p).Meets s (fun _ s' => l.Registered p s s') (· = s) := by
  unfold register
  split
  · exact Opening.meets_throw rfl
  next factories hfactories =>
    apply Opening.meets_bind
    apply Opening.meets_modify
    apply Opening.meets_modify
    refine ⟨?_, ⟨factories, hfactories, rfl⟩, ?_, rfl⟩
    · simp [LibraryLoad.registered, NativeCall.registered?]
    · simp [LibraryLoad.opened, NativeCall.opened?]

theorem Library.bringIn_meets (l : Library) :
    (l.bringIn id isPrimary p).Meets s
      (fun _ s' => if isPrimary then l.fits = true ∧ l.Registered p s s' else s' = s)
      (fun s' => s'.registered = s.registered) := by
  unfold bringIn
  cases isPrimary with
  | false => exact Opening.meets_pure rfl
  | true =>
    apply Opening.meets_bind
    refine l.askVersion_meets.imp ?_ fun s₁ hsame => hsame.registered
    rintro - s₁ ⟨hfits, hsame⟩
    refine l.register_meets.imp ?_ fun s₂ heq => heq ▸ hsame.registered
    rintro - s₂ ⟨hregistered, hfactories, hopened, hkept⟩
    rw [hsame.registered] at hregistered
    rw [hsame.factories] at hfactories
    exact ⟨hfits, hregistered, hfactories, hopened.trans hsame.opened, hkept.trans hsame.kept⟩

/-! ## Artifacts -/

/-- The load with a library that has been opened. -/
def LibraryLoad.openedAt (s : LibraryLoad) (p : Path) : LibraryLoad :=
  { s with calls := s.calls ++ [.opens p] }

@[simp] theorem LibraryLoad.openedAt_opened : (s.openedAt p).opened = s.opened ++ [p] := by
  simp [openedAt, opened, NativeCall.opened?]

@[simp] theorem LibraryLoad.openedAt_registered : (s.openedAt p).registered = s.registered := by
  simp [openedAt, registered, NativeCall.registered?]

/-- The load with a library that is kept. -/
def LibraryLoad.keeping (s : LibraryLoad) (p : Path) : LibraryLoad :=
  { s with kept := s.kept ++ [p] }

/-- All that an artifact can come to: it is passed over, or it is a library that was opened, has
brought in its factories if it is the primary one, and is kept. Where it fails, nothing was
registered. -/
theorem openArtifact_meets :
    (openArtifact libraries id isPrimary p).Meets s
      (fun _ s' => (isLibrary p = false ∧ s' = s) ∨
        ∃ l s₁, isLibrary p = true ∧ libraries p = some l ∧
          (if isPrimary then l.fits = true ∧ l.Registered p (s.openedAt p) s₁
            else s₁ = s.openedAt p) ∧ s' = s₁.keeping p)
      (fun s' => s'.registered = s.registered) := by
  have hcalled : (s.openedAt p).registered = s.registered := s.openedAt_registered
  unfold openArtifact
  split
  next hlibrary =>
    apply Opening.meets_bind
    apply Opening.meets_modify
    split
    · exact Opening.meets_throw hcalled
    next l hl =>
      apply Opening.meets_bind
      refine l.bringIn_meets.imp ?_ fun s₁ heq => heq.trans hcalled
      intro _ s₁ hin
      exact Opening.meets_modify (.inr ⟨l, s₁, hlibrary, hl, hin, rfl⟩)
  next hlibrary => exact Opening.meets_pure (.inl ⟨by simpa using hlibrary, rfl⟩)

/-- The libraries among some artifacts have been opened and kept, in order, and none of them was
let register factories. -/
structure LibraryLoad.Kept (artifacts : List Path) (s s' : LibraryLoad) : Prop where
  opened : s'.opened = s.opened ++ artifacts.filter isLibrary
  kept : s'.kept = s.kept ++ artifacts.filter isLibrary
  registered : s'.registered = s.registered
  factories : s'.factories = s.factories

theorem openArtifact_other_meets :
    (openArtifact libraries id false p).Meets s (fun _ => s.Kept [p])
      (fun s' => s'.registered = s.registered) := by
  refine openArtifact_meets.imp ?_ fun _ h => h
  rintro - s' (⟨hlibrary, rfl⟩ | ⟨l, s₁, hlibrary, -, rfl, rfl⟩)
  · exact ⟨by simp [hlibrary], by simp [hlibrary], rfl, rfl⟩
  · have hfilter : [p].filter isLibrary = [p] := by simp [hlibrary]
    refine ⟨?_, ?_, s.openedAt_registered, rfl⟩
    · rw [hfilter]
      exact s.openedAt_opened
    · rw [hfilter]
      rfl

/-- After the primary artifact the others are opened, and register nothing. -/
theorem openArtifacts_others_meets :
    (openArtifacts libraries id false artifacts).Meets s (fun _ => s.Kept artifacts)
      (fun s' => s'.registered = s.registered) := by
  induction artifacts generalizing s with
  | nil => exact Opening.meets_pure ⟨by simp, by simp, rfl, rfl⟩
  | cons p rest ih =>
    apply Opening.meets_bind
    refine openArtifact_other_meets.imp ?_ fun _ h => h
    intro _ s₁ hp
    refine ih.imp ?_ fun s' heq => heq.trans hp.registered
    intro _ s' hrest
    exact {
      opened := by rw [hrest.opened, hp.opened, List.append_assoc, ← List.filter_append]; rfl
      kept := by rw [hrest.kept, hp.kept, List.append_assoc, ← List.filter_append]; rfl
      registered := hrest.registered.trans hp.registered
      factories := hrest.factories.trans hp.factories }

/-- The artifact is a library that may bring in factories. -/
def MayRegister (libraries : Path → Option Library) (p : Path) : Prop :=
  isLibrary p = true ∧ ∃ l, libraries p = some l ∧ l.fits = true

/-- The factories in the table are those of the library. -/
def LibraryLoad.HasFactoriesOf (libraries : Path → Option Library) (s : LibraryLoad) (p : Path) :
    Prop :=
  ∃ l factories, libraries p = some l ∧ l.factories = some factories ∧
    s.factories = (FactoryTable.empty.insertAll factories).1

/-- The libraries among the artifacts have been opened and kept, each once and in order. The
primary one of them has registered its factories, and there are no others. -/
structure LibraryLoad.Complete (libraries : Path → Option Library) (artifacts : List Path)
    (s : LibraryLoad) : Prop where
  opened : s.opened = artifacts.filter isLibrary
  kept : s.kept = artifacts.filter isLibrary
  registered : s.registered = (artifacts.take 1).filter isLibrary
  factories : ∀ p ∈ s.registered, s.HasFactoriesOf libraries p
  noFactories : s.registered = [] → s.factories = .empty

/-- No library was let register factories but the primary artifact, and that one only with the
version of the host. -/
def LibraryLoad.IsGuarded (libraries : Path → Option Library) (artifacts : List Path)
    (s : LibraryLoad) : Prop :=
  s.registered.length ≤ 1 ∧ ∀ p ∈ s.registered, artifacts.head? = some p ∧ MayRegister libraries p

theorem LibraryLoad.isGuarded_of_registered (hs : s.registered = []) :
    s.IsGuarded libraries artifacts := by
  simp [IsGuarded, hs]

theorem LibraryLoad.complete_start (hartifacts : artifacts.filter isLibrary = []) :
    LibraryLoad.start.Complete libraries artifacts where
  opened := hartifacts.symm
  kept := hartifacts.symm
  registered := by
    have htake : (artifacts.take 1).filter isLibrary = [] :=
      List.sublist_nil.mp (hartifacts ▸ (List.take_sublist 1 artifacts).filter isLibrary)
    exact htake.symm
  factories _ hp := absurd hp List.not_mem_nil
  noFactories _ := rfl

/-- The primary artifact alone. -/
theorem openArtifact_primary_meets :
    (openArtifact libraries id true p).Meets .start
      (fun _ s => s.Complete libraries [p] ∧ s.IsGuarded libraries [p])
      (fun s => s.registered = []) := by
  refine openArtifact_meets.imp ?_ fun _ h => h
  rintro - s (⟨hlibrary, rfl⟩ | ⟨l, s₁, hlibrary, hl, ⟨hfits, hin⟩, rfl⟩)
  · exact ⟨LibraryLoad.complete_start (by simp [hlibrary]), LibraryLoad.isGuarded_of_registered rfl⟩
  · obtain ⟨factories, hfactories, htable⟩ := hin.factories
    have hfilter : [p].filter isLibrary = [p] := by simp [hlibrary]
    have hregistered : (s₁.keeping p).registered = [p] := hin.registered
    have hguarded : (s₁.keeping p).IsGuarded libraries [p] := by
      simp [LibraryLoad.IsGuarded, hregistered, MayRegister, hlibrary, hl, hfits]
    refine ⟨⟨hin.opened.trans hfilter.symm, ?_, hregistered.trans hfilter.symm, ?_, ?_⟩, hguarded⟩
    · rw [hfilter, LibraryLoad.keeping, hin.kept]
      rfl
    · rw [hregistered]
      intro q hq
      cases List.mem_singleton.mp hq
      exact ⟨l, factories, hl, hfactories, htable⟩
    · rw [hregistered]
      exact fun h => absurd h (List.cons_ne_nil p [])

/-- The primary artifact with those after it. -/
theorem LibraryLoad.Complete.cons {rest : List Path} (hp : s.Complete libraries [p])
    (hrest : s.Kept rest s') : s'.Complete libraries (p :: rest) where
  opened := by rw [hrest.opened, hp.opened, ← List.filter_append]; rfl
  kept := by rw [hrest.kept, hp.kept, ← List.filter_append]; rfl
  registered := hrest.registered.trans hp.registered
  factories := by
    unfold HasFactoriesOf
    rw [hrest.registered, hrest.factories]
    exact hp.factories
  noFactories := by
    rw [hrest.registered, hrest.factories]
    exact hp.noFactories

/-- However the load ends, it is guarded, and it is complete if it has not failed. -/
theorem loadLibraries_meets :
    (openArtifacts libraries id true artifacts).Meets .start
      (fun _ s => s.Complete libraries artifacts ∧ s.IsGuarded libraries artifacts)
      (·.IsGuarded libraries artifacts) := by
  cases artifacts with
  | nil =>
    exact Opening.meets_pure
      ⟨LibraryLoad.complete_start rfl, LibraryLoad.isGuarded_of_registered rfl⟩
  | cons p rest =>
    apply Opening.meets_bind
    refine openArtifact_primary_meets.imp ?_ fun s hs => LibraryLoad.isGuarded_of_registered hs
    rintro - s₁ ⟨hcomplete, hguarded⟩
    have hsame {s : LibraryLoad} (hs : s.registered = s₁.registered) :
        s.IsGuarded libraries (p :: rest) := by
      rw [LibraryLoad.IsGuarded, hs]
      exact hguarded
    refine openArtifacts_others_meets.imp ?_ fun s hs => hsame hs
    intro _ s hrest
    exact ⟨hcomplete.cons hrest, hsame hrest.registered⟩

/-- A load that fails has let no library register either, but for the primary artifact with the
version of the host. -/
theorem loadLibraries_isGuarded :
    (loadLibraries libraries id artifacts).2.IsGuarded libraries artifacts := by
  have hmeets : (openArtifacts libraries id true artifacts).Meets .start _ _ :=
    loadLibraries_meets
  unfold Opening.Meets at hmeets
  unfold loadLibraries
  split at hmeets
  next s hload =>
    rw [hload]
    exact hmeets.2
  next e s hload =>
    rw [hload]
    exact hmeets

/-! ## Contexts -/

section Contexts

variable {layout : FolderLayout} {tree : FileTree} {d : Descriptor} {context : Context}
variable {notices : List Notice}

/-- A context is built from the artifacts of the folder that is found for the id. -/
theorem FolderLayout.bareContext_ok_iff : layout.bareContext tree d = .ok context ↔
    ∃ folder a bytes, layout.locate tree d.id = .ok folder ∧
      layout.artifacts tree d.id folder = .ok a ∧ tree.read? a.primary = some bytes ∧
      context = { Context.of d.id folder a.all with
        fingerprint := some (fingerprint bytes)
        sourceVersion := some d.version } := by
  unfold bareContext
  cases layout.locate tree d.id with
  | error e => simp [bind, Except.bind]
  | ok folder =>
    cases hartifacts : layout.artifacts tree d.id folder with
    | error e => simp [hartifacts, bind, Except.bind]
    | ok a =>
      cases hread : tree.read? a.primary <;>
        simp [hartifacts, hread, bind, Except.bind, pure, Except.pure, eq_comm]

/-- A context that is loaded is the one that is built, with its libraries if these are to be
opened. -/
theorem FolderLayout.load_ok_iff : layout.load tree libraries d = (.ok context, notices) ↔
    ∃ bare, layout.bareContext tree d = .ok bare ∧
      if layout.loadNativeArtifacts then
        ∃ s, loadLibraries libraries d.id bare.artifacts = (.ok (), s) ∧
          context = { bare with factories := s.factories, libraries := s.kept } ∧
          notices = s.notices
      else context = bare ∧ notices = [] := by
  unfold load
  cases layout.bareContext tree d with
  | error e => simp
  | ok bare =>
    cases layout.loadNativeArtifacts with
    | false => simp [eq_comm]
    | true =>
      cases hload : loadLibraries libraries d.id bare.artifacts with
      | mk outcome s => cases outcome <;> simp [hload, eq_comm]

end Contexts

/-! ## Endings -/

/-- Whether a path has the ending of a native library, in the comparison by which artifacts are
told from other files. -/
def hasLibraryEnding (p : Path) : Bool :=
  match p.extension? with
  | some ending => libraryEndings.any (equalIgnoringCase · ending)
  | none => false

/-- Whether the ending of a path is written without capital letters. -/
def hasSmallEnding (p : Path) : Bool :=
  p.extension?.all fun ending => ending.toList.map Char.toLower == ending.toList

/-- A library is told by its ending, but only where that is written without capitals. -/
theorem isLibrary_iff :
    isLibrary p = true ↔ hasLibraryEnding p = true ∧ hasSmallEnding p = true := by
  unfold isLibrary hasLibraryEnding hasSmallEnding
  cases p.extension? with
  | none => simp
  | some ending =>
    have hsmall : ∀ known ∈ libraryEndings, known.toList.map Char.toLower = known.toList := by
      decide
    simp only [List.contains_iff_mem, List.any_eq_true, equalIgnoringCase, beq_iff_eq,
      Option.all_some]
    constructor
    · intro hmem
      exact ⟨⟨ending, hmem, rfl⟩, hsmall ending hmem⟩
    · rintro ⟨⟨known, hknown, heq⟩, hending⟩
      rw [hsmall known hknown, hending, String.toList_inj] at heq
      exact heq ▸ hknown

/-- The libraries among some artifacts are all that have such an ending exactly where none of
those is written with capitals. -/
theorem filter_isLibrary_iff :
    artifacts.filter isLibrary = artifacts.filter hasLibraryEnding ↔
      ∀ p ∈ artifacts, hasLibraryEnding p = true → hasSmallEnding p = true := by
  constructor
  · intro heq p hp hending
    have hmem : p ∈ artifacts.filter isLibrary := heq ▸ List.mem_filter.mpr ⟨hp, hending⟩
    exact (isLibrary_iff.mp (List.mem_filter.mp hmem).2).2
  · intro hsmall
    refine List.filter_congr fun p hp => ?_
    rw [Bool.eq_iff_iff, isLibrary_iff]
    exact and_iff_left_of_imp (hsmall p hp)

end ExtensionHost
