import ExtensionHost.Proofs.Deed
import ExtensionHost.Proofs.Invocation
import ExtensionHost.Proofs.Opening
import ExtensionHost.Proofs.Scan

/-!
# What instances stem from

An instance is made by a constructor for a description, or it stands in for one that
could not be constructed. Its context knows the version of that description. What the
constructors make of descriptions is all that has to be known of them.
-/

namespace ExtensionHost

variable {meant : Descriptor → Blueprint → Prop} {h h' : Host} {d : Descriptor} {n now : Nat}
variable {i : Instance} {b : Blueprint} {args : List DependencyValue} {earlier : List Invocation}

/-! ## Constructors -/

/-- Whatever a constructor of the factory makes of a description is as it is meant to be. -/
def Factory.Builds (meant : Descriptor → Blueprint → Prop) (f : Factory) : Prop :=
  ∀ c ∈ f.constructors, ∀ d args earlier b, (c.build d args).after earlier = .made b → meant d b

/-- Every factory of the table builds as it is meant to. -/
def FactoryTable.Builds (meant : Descriptor → Blueprint → Prop) (t : FactoryTable) : Prop :=
  ∀ {entryPoint f}, t.get? entryPoint = some f → f.Builds meant

/-- Every factory that a host was set up with builds as it is meant to, and so does every
factory in a library. -/
structure Setup.Builds (meant : Descriptor → Blueprint → Prop) (S : Setup) : Prop where
  table : S.factories.Builds meant
  libraries : ∀ {p library factories}, S.libraries p = some library →
    library.factories = some factories → ∀ f ∈ factories, f.Builds meant

/-- Where nothing is meant, anything may be built. -/
theorem Setup.builds_anything (S : Setup) : S.Builds fun _ _ => True :=
  ⟨fun _ _ _ _ _ _ _ _ => trivial, fun _ _ _ _ _ _ _ _ _ _ _ => trivial⟩

/-- The instance that settles a trial was made by a candidate. -/
theorem tryCandidates_made {cs : List Candidate}
    (hb : (tryCandidates d args cs earlier).settled = some (.ok b)) :
    ∃ c ∈ cs, ∃ invoked, c.invoke invoked d args = .made b := by
  rcases tryCandidates_last hb with ⟨c, hc, tried, hsettled, -⟩
  refine ⟨c, hc, tried.reverse ++ earlier, ?_⟩
  cases hinvoke : c.invoke (tried.reverse ++ earlier) d args with
  | made made =>
    rw [hinvoke] at hsettled
    cases hsettled
    rfl
  | failed | brokeDown =>
    rw [hinvoke] at hsettled
    cases hsettled

/-- Only constructors of the factory are tried. -/
theorem Factory.constructor_mem {f : Factory} {c : Candidate} (hc : c ∈ f.candidates args) :
    c.constructor ∈ f.constructors := by
  exact List.mem_of_getElem? (mem_candidates hc).1

/-- What is instantiated is made by a constructor, or stands in for what none has made. -/
theorem Factory.Builds.instantiate {f : Factory} {fallback : Bool} (hf : f.Builds meant)
    (hb : (instantiate fallback f d args earlier).outcome = .ok b) :
    meant d b ∨ b = .synthetic d := by
  unfold ExtensionHost.instantiate at hb
  dsimp only at hb
  split at hb
  next made hsettled =>
    cases hb
    rcases tryCandidates_made hsettled with ⟨c, hc, _, hinvoke⟩
    exact .inl (hf c.constructor (f.constructor_mem hc) d _ _ b hinvoke)
  next => cases hb
  next =>
    split at hb
    · cases hb
      exact .inr rfl
    · cases hb

theorem FactoryTable.builds_empty : FactoryTable.empty.Builds meant := by
  intro entryPoint f hf
  cases hf

theorem FactoryTable.Builds.insert {t : FactoryTable} {f : Factory} (ht : t.Builds meant)
    (hf : f.Builds meant) : (t.insert f).Builds meant := by
  intro entryPoint g hg
  rw [get?, FactoryTable.insert, lookup_insertEntry] at hg
  split at hg
  · cases hg
    exact hf
  · exact ht hg

theorem FactoryTable.Builds.insertAll {t : FactoryTable} {fs : List Factory} (ht : t.Builds meant)
    (hfs : ∀ f ∈ fs, f.Builds meant) : (t.insertAll fs).1.Builds meant := by
  induction fs generalizing t with
  | nil => exact ht
  | cons f fs ih =>
    rcases List.forall_mem_cons.mp hfs with ⟨hf, hrest⟩
    exact ih (ht.insert hf) hrest

/-! ## Contexts -/

section Loading

variable {libraries : Path → Option Library} {id : String}
variable {notices : List Notice} {context : Context} {layout : FolderLayout} {tree : FileTree}

/-- The factories of a context are those of libraries. -/
theorem loadLibraries_builds {artifacts : List Path} {s : LibraryLoad}
    (hl : ∀ {p library factories}, libraries p = some library →
      library.factories = some factories → ∀ f ∈ factories, f.Builds meant)
    (h : loadLibraries libraries id artifacts = (.ok (), s)) : s.factories.Builds meant := by
  have hcomplete := (loadLibraries_meets.done_of_from h).1
  intro entryPoint f hf
  cases hregistered : s.registered with
  | nil =>
    rw [hcomplete.noFactories hregistered] at hf
    exact FactoryTable.builds_empty hf
  | cons p rest =>
    obtain ⟨library, factories, hlibrary, hfactories, htable⟩ :=
      hcomplete.factories p (hregistered ▸ List.mem_cons_self)
    rw [htable] at hf
    exact FactoryTable.builds_empty.insertAll (hl hlibrary hfactories) hf

theorem FileTree.not_isEmpty_of_isFolder {p : Path} (hp : tree.isFolder p = true) :
    p.isEmpty = false := by
  -- Nothing is found at a path without a text.
  cases hempty : p.isEmpty with
  | false => rfl
  | true => simp [isFolder, get?, resolve?, Path.isFollowable, hempty] at hp

/-- A context knows the version of the description that it was built for, and a folder. -/
theorem FolderLayout.bareContext_ok (h : layout.bareContext tree d = .ok context) :
    context.sourceVersion = some d.version ∧ context.folder.isEmpty = false ∧
      context.factories = .empty := by
  obtain ⟨folder, a, bytes, hfolder, -, -, rfl⟩ := bareContext_ok_iff.mp h
  exact ⟨rfl, FileTree.not_isEmpty_of_isFolder (locate_isFolder hfolder), rfl⟩

/-- A context is loaded for the id of the description. -/
theorem FolderLayout.load_extensionId
    (h : layout.load tree libraries d = (.ok context, notices)) : context.extensionId = d.id := by
  obtain ⟨bare, hbare, hload⟩ := load_ok_iff.mp h
  obtain ⟨folder, a, bytes, -, -, -, rfl⟩ := bareContext_ok_iff.mp hbare
  split at hload
  · obtain ⟨s, -, rfl, -⟩ := hload
    rfl
  · rw [hload.1]
    rfl

theorem FolderLayout.load_ok
    (hl : ∀ {p library factories}, libraries p = some library →
      library.factories = some factories → ∀ f ∈ factories, f.Builds meant)
    (h : layout.load tree libraries d = (.ok context, notices)) :
    context.sourceVersion = some d.version ∧ context.folder.isEmpty = false ∧
      context.factories.Builds meant := by
  obtain ⟨bare, hbare, hload⟩ := load_ok_iff.mp h
  obtain ⟨hversion, hfolder, hfactories⟩ := bareContext_ok hbare
  split at hload
  · obtain ⟨s, hs, rfl, -⟩ := hload
    exact ⟨hversion, hfolder, loadLibraries_builds hl hs⟩
  · obtain ⟨rfl, -⟩ := hload
    exact ⟨hversion, hfolder, hfactories ▸ FactoryTable.builds_empty⟩

end Loading

/-! ## Instances -/

/-- `i.StemsFrom meant d` says that the instance was made for the description, as it is
meant to be or to stand in, and in a context that knows the version. -/
def Instance.StemsFrom (meant : Descriptor → Blueprint → Prop) (i : Instance) (d : Descriptor) :
    Prop :=
  d.hasEntryPoint = true ∧ ∃ b context, i.make = (Instance.ofBlueprint b (some context)).make ∧
    context.sourceVersion = some d.version ∧ context.folder.isEmpty = false ∧
    (meant (d.inContext context) b ∨ b = .synthetic (d.inContext context))

theorem Instance.StemsFrom.of_make {i' : Instance} (hi : i.StemsFrom meant d)
    (hmake : i'.make = i.make) : i'.StemsFrom meant d := by
  rcases hi with ⟨hentry, b, context, hb, hrest⟩
  exact ⟨hentry, b, context, hmake.trans hb, hrest⟩

/-- Every instance was made for some description. -/
def Host.Stems (meant : Descriptor → Blueprint → Prop) (h : Host) : Prop :=
  ∀ {n i}, h.instance? n = some i → ∃ d, i.StemsFrom meant d

theorem Host.instance?_addInstance {x : Instance} (hi : (h.addInstance x).instance? n = some i) :
    h.instance? n = some i ∨ n = h.nextInstance ∧ i = x := by
  simp only [instance?, addInstance] at hi
  by_cases hn : n < h.instances.length
  · rw [List.getElem?_append_left hn] at hi
    exact .inl hi
  · rw [List.getElem?_append_right (Nat.le_of_not_lt hn)] at hi
    have hzero : n - h.instances.length = 0 ∧ x = i := by
      simpa [List.getElem?_singleton] using hi
    exact .inr ⟨by simp only [nextInstance]; omega, hzero.2.symm⟩

@[simp] theorem Host.instance?_notice {notices : List Notice} :
    (h.notice notices).instance? n = h.instance? n := rfl

theorem Host.instance?_noteInvocations {journaled : Bool} {invoked : List Invocation} :
    (h.noteInvocations now d journaled invoked).instance? n = h.instance? n := by
  unfold noteInvocations
  induction invoked generalizing h with
  | nil => rfl
  | cons invocation rest ih => exact ih

/-- What a build adds, whether it succeeds or not, is made by a factory that the context of
the description leads to, in that context. -/
theorem Host.build_added (hi : (h.build now d).2.instance? n = some i) :
    h.instance? n = some i ∨ d.hasEntryPoint = true ∧ ∃ context notices f b fallback args earlier,
      h.settings.layout.load h.files h.libraries d = (.ok context, notices) ∧
      context.resolve? h.factories d.entryPoint = some f ∧
      (instantiate fallback f (d.inContext context) args earlier).outcome = .ok b ∧
      i = .ofBlueprint b (some context) := by
  unfold build at hi
  split at hi
  · exact .inl hi
  next hentry =>
  have hentry : d.hasEntryPoint = true := by simpa using hentry
  split at hi
  · exact .inl hi
  next context notices hload =>
    -- The identity check looks at what was constructed and changes nothing.
    have hi : ((h.notice notices).constructIn now context d).2.instance? n = some i := by
      split at hi
      next number h' heq => rwa [heq]
      next unmade h' _ heq => rwa [heq]
    unfold constructIn at hi
    split at hi
    · exact .inl hi
    next f hresolve =>
      unfold construct at hi
      dsimp only at hi
      split at hi
      next => exact .inl (by simpa [instance?_noteInvocations] using hi)
      next => exact .inl (by simpa [instance?_noteInvocations] using hi)
      next b _ hb =>
        rcases instance?_addInstance hi with hold | ⟨-, rfl⟩
        · exact .inl (by simpa [instance?_noteInvocations] using hold)
        · exact .inr ⟨hentry, context, notices, f, b, _, _, _, hload, hresolve, hb, rfl⟩

/-- The instance that a build adds has a context that was built for the description. -/
theorem Host.build_context {context : Context} (hnone : h.instance? n = none)
    (hi : (h.build now d).2.instance? n = some i) (hcontext : i.context = some context) :
    context.extensionId = d.id ∧ context.sourceVersion = some d.version := by
  rcases build_added hi with hi | ⟨-, loaded, notices, f, b, _, _, _, hload, -, -, rfl⟩
  · rw [hnone] at hi
    cases hi
  · obtain rfl : loaded = context := by
      simp only [Instance.ofBlueprint] at hcontext
      split at hcontext <;> cases hcontext
      rfl
    have hmeant : ∀ {p library factories}, h.libraries p = some library →
        library.factories = some factories → ∀ f ∈ factories, f.Builds fun _ _ => True :=
      h.setup.builds_anything.libraries
    exact ⟨FolderLayout.load_extensionId hload, (FolderLayout.load_ok hmeant hload).1⟩

/-- What a build adds was made for the description, whether the build succeeds or not. -/
theorem Host.build_stems (hS : h.setup.Builds meant)
    (hi : (h.build now d).2.instance? n = some i) :
    h.instance? n = some i ∨ i.StemsFrom meant d := by
  rcases build_added hi with hi |
    ⟨hentry, context, notices, f, b, _, _, _, hload, hresolve, hb, rfl⟩
  · exact .inl hi
  · rcases FolderLayout.load_ok hS.libraries hload with ⟨hversion, hfolder, hlocal⟩
    have hf : f.Builds meant := by
      unfold Context.resolve? at hresolve
      split at hresolve
      next f' heq =>
        cases hresolve
        exact hlocal heq
      next => exact hS.table hresolve
    exact .inr ⟨hentry, b, context, rfl, hversion, hfolder, hf.instantiate hb⟩

/-! ## Deeds -/

/-- After a deed an instance is one from before, as it was made, or has just been built. -/
theorem Host.perform_instance? {x : Deed} (hi : (h.perform now x).instance? n = some i) :
    (∃ i₀, h.instance? n = some i₀ ∧ i.make = i₀.make) ∨
      h.instance? n = none ∧ ∃ d, x = .build d := by
  cases hn : h.instance? n with
  | some i₀ =>
    rcases (h.perform_grew now x).instances hn with ⟨i', hi', hmake⟩
    cases hi'.symm.trans hi
    exact .inl ⟨i₀, rfl, hmake⟩
  | none =>
    refine .inr ⟨rfl, ?_⟩
    -- Of all deeds a build alone makes the list of instances longer.
    have hlength : h.instances.length ≤ n := List.getElem?_eq_none_iff.mp hn
    have hlong : n < (h.perform now x).instances.length := instance?_lt hi
    cases x with
    | build d => exact ⟨d, rfl⟩
    | beginCall m call =>
      cases hm : h.instance? m with
      | none => simp [perform, beginCall_none hm] at hlong; omega
      | some j => simp [perform, beginCall_some hm, happen, modifyInstance] at hlong; omega
    | endCall m call ending => simp [perform, endCall, happen, modifyInstance] at hlong; omega
    | switch m enabled => simp [perform, switch, happen, modifyInstance] at hlong; omega
    | register id m =>
      cases hblank : isBlankText id with
      | true => simp [perform, register_blank hblank] at hlong; omega
      | false => simp [perform, register_not_blank hblank, happen, notice] at hlong; omega
    | unregister id =>
      cases hm : h.registry.get? id with
      | none => simp [perform, unregister_none hm] at hlong; omega
      | some m => simp [perform, unregister_some hm, happen] at hlong; omega
    | nothing | notice | callGateway | runHook =>
      simp [perform, happen, notice] at hlong
      omega

theorem Host.perform_stems {x : Deed} (hS : h.setup.Builds meant) (hs : h.Stems meant) :
    (h.perform now x).Stems meant := by
  intro n i hi
  rcases perform_instance? hi with ⟨i₀, hi₀, hmake⟩ | ⟨hnone, d, rfl⟩
  · rcases hs hi₀ with ⟨d, hd⟩
    exact ⟨d, hd.of_make hmake⟩
  · rcases build_stems hS hi with hi | hi
    · rw [hnone] at hi
      cases hi
    · exact ⟨d, hi⟩

/-! ## Small hosts -/

theorem Factory.uniform_builds {entryPoint : String} {conduct : Conduct} {counters : Counters}
    (hmeant : ∀ d, meant d ⟨d, true, conduct, counters⟩) :
    (Factory.uniform entryPoint conduct counters).Builds meant := by
  intro c hc d args earlier b hb
  obtain rfl := List.mem_singleton.mp hc
  cases hb
  exact hmeant d

theorem Host.serving_builds {policy : LifecyclePolicy} {f : Factory} {ids : List String}
    (hf : f.Builds meant) : (Host.serving policy f ids).setup.Builds meant := by
  refine ⟨?_, nofun⟩
  show (FactoryTable.empty.insert f).Builds meant
  exact FactoryTable.builds_empty.insert hf

end ExtensionHost
