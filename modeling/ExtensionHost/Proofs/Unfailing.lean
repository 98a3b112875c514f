import ExtensionHost.Proofs.Alike

/-!
# The host on which no cleanup fails

Next to a host stands the one that is the same, but where every cleanup hook succeeds, and
every instance, whether it is there or has yet to be made, succeeds in cleaning up. What comes
of a build is the same on both, since a constructor makes the same but for the cleanup.
-/

namespace ExtensionHost

variable {α β : Type} {d : Descriptor} {args : List DependencyValue} {id : String}

/-! ## Tables -/

/-- A table with its values changed. -/
def mapValues (f : α → β) (table : List (String × α)) : List (String × β) :=
  table.map fun entry => (entry.1, f entry.2)

section Tables

variable {f : α → β} {table : List (String × α)} {key : String} {value : α}

theorem lookup_mapValues : (mapValues f table).lookup key = (table.lookup key).map f := by
  induction table with
  | nil => rfl
  | cons entry rest ih =>
    rcases entry with ⟨k, v⟩
    simp only [mapValues, List.map_cons, List.lookup_cons] at ih ⊢
    split
    · rfl
    · exact ih

theorem mapValues_insertEntry :
    mapValues f (insertEntry key value table) = insertEntry key (f value) (mapValues f table) := by
  induction table with
  | nil => rfl
  | cons entry rest ih =>
    simp only [insertEntry, mapValues, List.map_cons] at ih ⊢
    split
    · rfl
    split
    · rfl
    · rw [List.map_cons, ih]

theorem mapValues_eraseEntry :
    mapValues f (eraseEntry key table) = eraseEntry key (mapValues f table) := by
  rw [mapValues, eraseEntry, mapValues, eraseEntry, List.filter_map]
  rfl

end Tables

/-! ## What cleans up -/

/-- The conduct with a cleanup that always succeeds, at once. -/
def Conduct.unfailing (c : Conduct) : Conduct :=
  { c with
    respond := fun call earlier =>
      match call with
      | .cleanup _ => .immediate
      | call => c.respond call earlier }

/-- What is made is the same, but its cleanup never fails. -/
def Blueprint.unfailing (b : Blueprint) : Blueprint :=
  { b with conduct := b.conduct.unfailing }

/-- The same comes of a constructor, but the cleanup of what it makes never fails. -/
def Construction.unfailing : Construction → Construction
  | .made b => .made b.unfailing
  | .failed e => .failed e
  | .brokeDown message => .brokeDown message

/-- The making of instances whose cleanup never fails. -/
def Making.unfailing (m : Making) : Making :=
  ⟨fun earlier => (m.after earlier).unfailing⟩

/-- The constructor of instances whose cleanup never fails. -/
def Constructor.unfailing (c : Constructor) : Constructor :=
  { c with build := fun d args => (c.build d args).unfailing }

/-- The factory of instances whose cleanup never fails. -/
def Factory.unfailing (f : Factory) : Factory :=
  { f with constructors := f.constructors.map Constructor.unfailing }

/-- The factories of instances whose cleanup never fails. -/
def FactoryTable.unfailing (t : FactoryTable) : FactoryTable :=
  ⟨mapValues Factory.unfailing t.entries⟩

/-- The library with factories of instances whose cleanup never fails. -/
def Library.unfailing (l : Library) : Library :=
  { l with factories := l.factories.map (·.map Factory.unfailing) }

/-- The context with factories of instances whose cleanup never fails. -/
def Context.unfailing (c : Context) : Context :=
  { c with factories := c.factories.unfailing }

/-- The instance whose cleanup never fails. -/
def Instance.unfailing (i : Instance) : Instance :=
  { i with
    context := i.context.map Context.unfailing
    conduct := i.conduct.unfailing }

/-- The hook that never fails. -/
def CleanupHook.unfailing (hook : CleanupHook) : CleanupHook :=
  { hook with respond := fun _ _ => .immediate }

/-- The libraries whose factories make instances whose cleanup never fails. -/
def unfailingLibraries (libraries : Path → Option Library) : Path → Option Library :=
  fun p => (libraries p).map Library.unfailing

/-- What a host is set up with where no cleanup fails. -/
def Setup.unfailing (S : Setup) : Setup :=
  { S with
    libraries := unfailingLibraries S.libraries
    factories := S.factories.unfailing
    hooks := S.hooks.map CleanupHook.unfailing }

/-- The same instances are registered, with contexts where no cleanup fails. -/
def Registry.unfailing (r : Registry) : Registry :=
  { r with contexts := mapValues Context.unfailing r.contexts }

/-- The same has happened, but a cleanup has succeeded. -/
def Happening.unfailing : Happening → Happening
  | .ended n (.cleanup removed) _ => .ended n (.cleanup removed) .succeeded
  | w => w

/-- The host on which no cleanup has failed and none will. -/
def Host.unfailing (h : Host) : Host :=
  { h with
    libraries := unfailingLibraries h.libraries
    factories := h.factories.unfailing
    hooks := h.hooks.map CleanupHook.unfailing
    instances := h.instances.map Instance.unfailing
    registry := h.registry.unfailing
    history := h.history.map fun entry => (entry.1, entry.2.unfailing) }

/-- What stands in for an instance always cleans up. -/
theorem Blueprint.unfailing_synthetic : (Blueprint.synthetic d).unfailing = .synthetic d := by
  have hconduct : Conduct.idle.unfailing = Conduct.idle := by
    have hrespond : Conduct.idle.unfailing.respond = Conduct.idle.respond := by
      funext call earlier
      cases call <;> rfl
    rw [Conduct.unfailing] at hrespond ⊢
    exact congrArg (fun respond => { Conduct.idle with respond := respond }) hrespond
  rw [unfailing, synthetic, hconduct]

/-! ## Registries -/

namespace Registry

variable {r : Registry} {n : Nat} {context : Option Context}

theorem get?_unfailing : r.unfailing.get? id = r.get? id := rfl

theorem unfailing_insert : (r.insert id n context).unfailing =
    r.unfailing.insert id n (context.map Context.unfailing) := by
  cases context with
  | none => exact congrArg (Registry.mk _) mapValues_eraseEntry
  | some context => exact congrArg (Registry.mk _) mapValues_insertEntry

theorem unfailing_erase : (r.erase id).unfailing = r.unfailing.erase id :=
  congrArg (Registry.mk _) mapValues_eraseEntry

end Registry

/-! ## Loading -/

theorem FactoryTable.unfailing_insertAll (t : FactoryTable) (fs : List Factory) :
    t.unfailing.insertAll (fs.map Factory.unfailing) =
      ((t.insertAll fs).1.unfailing, (t.insertAll fs).2) := by
  induction fs generalizing t with
  | nil => rfl
  | cons f fs ih =>
    have hinsert : t.unfailing.insert f.unfailing = (t.insert f).unfailing :=
      congrArg FactoryTable.mk mapValues_insertEntry.symm
    have hcontains : t.unfailing.contains f.unfailing.entryPoint = t.contains f.entryPoint := by
      have hget : t.unfailing.get? f.entryPoint = (t.get? f.entryPoint).map Factory.unfailing :=
        lookup_mapValues
      exact (congrArg Option.isSome hget).trans Option.isSome_map
    have hnotices : t.unfailing.insertNotices f.unfailing = t.insertNotices f := by
      rw [insertNotices, hcontains, insertNotices, Factory.unfailing]
    simp only [List.map_cons, insertAll, hinsert, ih, hnotices]

/-- The load with factories of instances whose cleanup never fails. -/
def LibraryLoad.unfailing (s : LibraryLoad) : LibraryLoad :=
  { s with factories := s.factories.unfailing }

/-- The second step does what the first one does, with factories where no cleanup fails. -/
def Opening.Unfails {α : Type} (x x' : Opening α) : Prop :=
  ∀ s, x'.from s.unfailing = ((x.from s).1, (x.from s).2.unfailing)

theorem Opening.unfails_pure {α : Type} (a : α) : Unfails (pure a) (pure a) := fun _ => rfl

theorem Opening.unfails_throw {α : Type} (e : LoadError) :
    Unfails (throw e : Opening α) (throw e) := fun _ => rfl

theorem Opening.Unfails.bind {α β : Type} {x x' : Opening α} {f f' : α → Opening β}
    (hx : x.Unfails x') (hf : ∀ a, (f a).Unfails (f' a)) : (x >>= f).Unfails (x' >>= f') := by
  intro s
  rw [from_bind, from_bind, hx]
  cases x.from s with
  | mk outcome s₁ =>
    cases outcome with
    | ok a => exact hf a s₁
    | error e => rfl

theorem Opening.insert_unfails (factories : List Factory) :
    (Opening.insert factories).Unfails (Opening.insert (factories.map Factory.unfailing)) := by
  intro s
  have hall := FactoryTable.unfailing_insertAll s.factories factories
  simp [Opening.insert, LibraryLoad.unfailing, hall]

theorem Library.askVersion_unfails (l : Library) (id : String) (p : Path) :
    (l.askVersion id p).Unfails (l.unfailing.askVersion id p) := by
  have hversion : l.unfailing.abiVersion = l.abiVersion := rfl
  unfold askVersion
  rw [hversion]
  cases l.abiVersion with
  | none => exact fun _ => rfl
  | some version =>
    refine .bind (fun _ => rfl) fun _ => ?_
    split
    · exact Opening.unfails_throw _
    · exact Opening.unfails_pure ()

theorem Library.register_unfails (l : Library) (id : String) (p : Path) :
    (l.register id p).Unfails (l.unfailing.register id p) := by
  have hfactories : l.unfailing.factories = l.factories.map (·.map Factory.unfailing) := rfl
  unfold register
  rw [hfactories]
  cases l.factories with
  | none => exact Opening.unfails_throw _
  | some factories => exact .bind (fun _ => rfl) fun _ => Opening.insert_unfails factories

theorem openArtifact_unfails (libraries : Path → Option Library) (id : String) (isPrimary : Bool)
    (p : Path) : (openArtifact libraries id isPrimary p).Unfails
      (openArtifact (unfailingLibraries libraries) id isPrimary p) := by
  have hlibrary : unfailingLibraries libraries p = (libraries p).map Library.unfailing := rfl
  unfold openArtifact
  rw [hlibrary]
  split
  · refine .bind (fun _ => rfl) fun _ => ?_
    cases libraries p with
    | none => exact Opening.unfails_throw _
    | some l =>
      refine .bind ?_ fun _ _ => rfl
      unfold Library.bringIn
      split
      · exact (l.askVersion_unfails id p).bind fun _ => l.register_unfails id p
      · exact Opening.unfails_pure ()
  · exact Opening.unfails_pure ()

theorem openArtifacts_unfails (libraries : Path → Option Library) (id : String) (isPrimary : Bool)
    (artifacts : List Path) : (openArtifacts libraries id isPrimary artifacts).Unfails
      (openArtifacts (unfailingLibraries libraries) id isPrimary artifacts) := by
  induction artifacts generalizing isPrimary with
  | nil => exact Opening.unfails_pure ()
  | cons p rest ih => exact (openArtifact_unfails libraries id isPrimary p).bind fun _ => ih false

theorem loadLibraries_unfailing (libraries : Path → Option Library) (id : String)
    (artifacts : List Path) :
    loadLibraries (unfailingLibraries libraries) id artifacts =
      ((loadLibraries libraries id artifacts).1,
        (loadLibraries libraries id artifacts).2.unfailing) :=
  openArtifacts_unfails libraries id true artifacts .start

/-- The same context is loaded, with factories where no cleanup fails. -/
theorem FolderLayout.load_unfailing (layout : FolderLayout) (tree : FileTree)
    (libraries : Path → Option Library) (d : Descriptor) :
    layout.load tree (unfailingLibraries libraries) d =
      ((layout.load tree libraries d).1.map Context.unfailing,
        (layout.load tree libraries d).2) := by
  unfold load
  cases hbare : layout.bareContext tree d with
  | error e => rfl
  | ok context =>
    -- Before libraries are opened there are no factories that could be different.
    have hempty : context.unfailing = context := by
      rw [Context.unfailing, (bareContext_ok hbare).2.2]
      exact congrArg (fun t => { context with factories := t }) (bareContext_ok hbare).2.2.symm
    dsimp only
    split
    · rw [loadLibraries_unfailing]
      cases loadLibraries libraries d.id context.artifacts with
      | mk outcome s => cases outcome <;> rfl
    · exact congrArg (fun c => (Except.ok c, ([] : List Notice))) hempty.symm

theorem Context.resolve?_unfailing (c : Context) (t : FactoryTable) (entryPoint : String) :
    c.unfailing.resolve? t.unfailing entryPoint =
      (c.resolve? t entryPoint).map Factory.unfailing := by
  have hget (t : FactoryTable) :
      t.unfailing.get? entryPoint = (t.get? entryPoint).map Factory.unfailing := lookup_mapValues
  simp only [resolve?, unfailing, hget]
  cases c.factories.get? entryPoint <;> rfl

/-! ## Instantiation -/

/-- The candidate with a constructor of instances whose cleanup never fails. -/
def Candidate.unfailing (c : Candidate) : Candidate :=
  { c with constructor := c.constructor.unfailing }

theorem Factory.candidates_unfailing (f : Factory) (args : List DependencyValue) :
    f.unfailing.candidates args = (f.candidates args).map Candidate.unfailing := by
  have hfitting : f.unfailing.fitting args = (f.fitting args).map Candidate.unfailing := by
    simp only [fitting, unfailing, List.zipIdx_map, List.filterMap_map, List.map_filterMap]
    congr 1
    funext c
    simp only [Function.comp, Constructor.candidate?, Option.map_map]
    rfl
  simp only [candidates, hfitting, List.map_flatMap, List.filter_map]
  rfl

theorem tryCandidates_unfailing (d : Descriptor) (args : List DependencyValue)
    (cs : List Candidate) (earlier : List Invocation) :
    tryCandidates d args (cs.map Candidate.unfailing) earlier =
      { tryCandidates d args cs earlier with
        settled := (tryCandidates d args cs earlier).settled.map
          (·.map Blueprint.unfailing) } := by
  induction cs generalizing earlier with
  | nil => rfl
  | cons c cs ih =>
    have hinvoke : c.unfailing.invoke earlier d args = (c.invoke earlier d args).unfailing := rfl
    simp only [List.map_cons, tryCandidates, Candidate.tryThen, hinvoke]
    cases c.invoke earlier d args with
    | made b => rfl
    | brokeDown message => rfl
    | failed e =>
      simp only [Construction.unfailing, ih]
      rfl

/-- The same constructors are invoked, and the same is made but for the cleanup. -/
theorem instantiate_unfailing (fallback : Bool) (f : Factory) (d : Descriptor)
    (args : List DependencyValue) (earlier : List Invocation) :
    instantiate fallback f.unfailing d args earlier =
      { instantiate fallback f d args earlier with
        outcome := (instantiate fallback f d args earlier).outcome.map Blueprint.unfailing } := by
  have hreason (t : Trial) (settled : Option (Except String Blueprint)) :
      ({ t with settled := settled } : Trial).reason f.unfailing args = t.reason f args := by
    simp only [Trial.reason, Factory.unfailing, List.length_map]
  simp only [instantiate, Factory.candidates_unfailing, tryCandidates_unfailing]
  rcases (tryCandidates d args (f.candidates args) earlier).settled with _ | message | made
  · simp only [Option.map_none, hreason]
    split
    · simp only [Except.map, Blueprint.unfailing_synthetic]
      rfl
    · rfl
  · rfl
  · rfl

/-! ## Building -/

/-- What comes of a build where no cleanup fails. -/
def Building.unfailing (b : Building) : Building :=
  { b with made := b.made.map Instance.unfailing }

theorem Building.made_unfailing (b : Building) :
    b.unfailing.made.toList = b.made.toList.map Instance.unfailing := by
  rcases b with ⟨_, _ | _, _⟩ <;> rfl

theorem Instance.ofBlueprint_unfailing (b : Blueprint) (context : Context) :
    Instance.ofBlueprint b.unfailing (some context.unfailing) =
      (Instance.ofBlueprint b (some context)).unfailing := by
  unfold ofBlueprint unfailing
  cases hexposes : b.exposesContext <;> simp [Blueprint.unfailing, hexposes]

theorem Setup.buildingBy_unfailing (S : Setup) (earlier : List Invocation) (d : Descriptor)
    (context : Context) (f : Factory) :
    S.unfailing.buildingBy earlier d context.unfailing f.unfailing =
      (S.buildingBy earlier d context f).unfailing := by
  have hd : d.inContext context.unfailing = d.inContext context := rfl
  simp only [buildingBy, unfailing, hd, instantiate_unfailing]
  generalize instantiate S.settings.policy.syntheticFallback f (d.inContext context)
    (S.dependencies.arguments d.id) earlier = made
  cases made.brokeDown with
  | some message => rfl
  | none =>
    cases made.outcome with
    | error e => rfl
    | ok b =>
      simp only [Except.map, Instance.ofBlueprint_unfailing]
      rfl

/-- What comes of a build is the same but for the cleanup. -/
theorem Setup.building_unfailing (S : Setup) (earlier : List Invocation) (d : Descriptor) :
    S.unfailing.building earlier d = (S.building earlier d).unfailing := by
  unfold building
  split
  · rfl
  · simp only [unfailing, FolderLayout.load_unfailing]
    cases (S.settings.layout.load S.files S.libraries d).1 with
    | error e => rfl
    | ok context =>
      simp only [Except.map, Context.resolve?_unfailing]
      cases context.resolve? S.factories d.entryPoint with
      | none => rfl
      | some f => exact S.buildingBy_unfailing earlier d context f

end ExtensionHost
