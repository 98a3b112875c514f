import ExtensionHost.Proofs.Agreement
import ExtensionHost.Proofs.BreakDown
import ExtensionHost.Proofs.Frame
import ExtensionHost.Proofs.Origin

/-!
# Hosts that are alike for an id

Two hosts may differ in everything that is about other ids, and in the numbers of instances,
and an event still comes to the same on both. The programs of an event are followed on both
hosts at once: instances with different numbers stand for each other, and whatever is done to
the one is done to the other.

When an instance was first disabled is the one thing that may differ, as events are handled
at different times. It only tells how long a drain waits.
-/

namespace ExtensionHost

open Program

variable {α β : Type} {t u now : Nat} {h h' k k' : Host} {n m : Nat} {i j : Instance}
variable {d : Descriptor} {id : String}

/-! ## Instances -/

/-- An instance without when it was first disabled. -/
def Instance.shown (i : Instance) : Instance :=
  { i with disabledAt := none }

/-- Two instances are the same but for when they were first disabled. -/
def Instance.Like (i j : Instance) : Prop :=
  i.shown = j.shown

theorem Instance.shown_callEnded (call : Call) (ending : Ending) :
    (i.callEnded call ending).shown = i.shown.callEnded call ending := by
  cases call <;> cases ending <;> try rfl
  show Instance.shown (if i.conduct.closesConnections then _ else _) =
    if i.conduct.closesConnections then _ else _
  split <;> rfl

namespace Instance.Like

theorem refl (i : Instance) : i.Like i := rfl

theorem symm (h : i.Like j) : j.Like i := Eq.symm h

theorem trans {l : Instance} (h : i.Like j) (h' : j.Like l) : i.Like l := Eq.trans h h'

theorem make (h : i.Like j) : i.make = j.make :=
  (congrArg Instance.make h :)

theorem descriptor (h : i.Like j) : i.descriptor = j.descriptor :=
  (congrArg Instance.descriptor h :)

theorem id_eq (h : i.Like j) : i.id = j.id :=
  (congrArg Instance.id h :)

theorem context (h : i.Like j) : i.context = j.context :=
  (congrArg Instance.context h :)

theorem conduct (h : i.Like j) : i.conduct = j.conduct :=
  (congrArg Instance.conduct h :)

theorem enabled (h : i.Like j) : i.enabled = j.enabled :=
  (congrArg Instance.enabled h :)

theorem started (h : i.Like j) : i.started = j.started :=
  (congrArg Instance.started h :)

/-- What an instance answers does not depend on when it was disabled. -/
theorem response (h : i.Like j) (call : Call) : i.response call = j.response call :=
  (congrArg (fun l : Instance => l.response call) h :)

theorem callBegun (h : i.Like j) (call : Call) : (i.callBegun call).Like (j.callBegun call) :=
  (congrArg (fun l : Instance => l.callBegun call) h :)

theorem callEnded (h : i.Like j) (call : Call) (ending : Ending) :
    (i.callEnded call ending).Like (j.callEnded call ending) := by
  unfold Like at h ⊢
  rw [shown_callEnded, shown_callEnded, h]

theorem setEnabled (h : i.Like j) (enabled : Bool) :
    (i.setEnabled t enabled).Like (j.setEnabled u enabled) :=
  (congrArg (fun l : Instance => { l with enabled := enabled }) h :)

end Instance.Like

/-! ## Building -/

/-- What two hosts were set up with may differ in the files, as long as the same contexts are
loaded from them. -/
structure Setup.Like (S S' : Setup) : Prop where
  settings : S.settings = S'.settings
  load : ∀ d, S.settings.layout.load S.files S.libraries d =
    S'.settings.layout.load S'.files S'.libraries d
  factories : S.factories = S'.factories
  dependencies : S.dependencies = S'.dependencies
  hooks : S.hooks = S'.hooks
  gateways : S.gateways = S'.gateways

theorem Setup.Like.refl (S : Setup) : S.Like S :=
  ⟨rfl, fun _ => rfl, rfl, rfl, rfl, rfl⟩

/-- What comes of a build: the constructors that are invoked, the instance that is made, if
any, and whether the build breaks down, fails or succeeds. -/
structure Building where
  invoked : List Happening
  made : Option Instance
  outcome : Except String (Except HostError Unit)

/-- A build that breaks down makes nothing. -/
def Building.brokeDown (invoked : List Happening) (message : String) : Building :=
  ⟨invoked, none, .error message⟩

/-- A build that makes nothing. -/
def Building.failed (invoked : List Happening) (e : HostError) : Building :=
  ⟨invoked, none, .ok (.error e)⟩

/-- What comes of an instance that was made. It has to report the id. -/
def Building.checked (invoked : List Happening) (id : String) (i : Instance) : Building :=
  ⟨invoked, some i,
    .ok (if i.id = id then .ok () else .error (.instantiation (.identityMismatch id i.id)))⟩

variable {earlier : List Invocation}

/-- What comes of a build of a description in a context by a factory, if these constructors
were invoked for the id before. -/
def Setup.buildingBy (S : Setup) (earlier : List Invocation) (d : Descriptor) (context : Context)
    (f : Factory) : Building :=
  let made := instantiate S.settings.policy.syntheticFallback f (d.inContext context)
    (S.dependencies.arguments d.id) earlier
  let invoked := made.invoked.map (.constructed d.id d.version · f.journaled)
  match made.brokeDown, made.outcome with
  | some message, _ => .brokeDown invoked message
  | none, .error e => .failed invoked (.instantiation e)
  | none, .ok b => .checked invoked d.id (.ofBlueprint b (some context))

/-- What comes of a build of a description. -/
def Setup.building (S : Setup) (earlier : List Invocation) (d : Descriptor) : Building :=
  if !d.hasEntryPoint then .failed [] (.instantiation (.missingEntryPoint d.id))
  else
    match (S.settings.layout.load S.files S.libraries d).1 with
    | .error e => .failed [] (.load e)
    | .ok context =>
      match context.resolve? S.factories d.entryPoint with
      | none => .failed [] (.load (.entryPointNotFound d.id d.entryPoint))
      | some f => S.buildingBy earlier d context f

theorem Setup.Like.building {S S' : Setup} (h : S.Like S') (earlier : List Invocation)
    (d : Descriptor) : S.building earlier d = S'.building earlier d := by
  unfold Setup.building
  rw [h.load d]
  simp only [Setup.buildingBy, h.settings, h.factories, h.dependencies]

/-- A build on a host has come to a result and a host. -/
structure Host.BuiltBy (h : Host) (b : Building)
    (made : Except String (Except HostError Nat) × Host) : Prop where
  result : made.1 = b.outcome.map (·.map fun _ => h.nextInstance)
  setup : made.2.setup = h.setup
  registry : made.2.registry = h.registry
  instances : made.2.instances = h.instances ++ b.made.toList
  past : made.2.past = h.past ++ b.invoked

theorem Host.noteInvocations_same (journaled : Bool) (invoked : List Invocation) :
    (h.noteInvocations now d journaled invoked).setup = h.setup ∧
      (h.noteInvocations now d journaled invoked).registry = h.registry ∧
      (h.noteInvocations now d journaled invoked).instances = h.instances := by
  induction invoked generalizing h with
  | nil => exact ⟨rfl, rfl, rfl⟩
  | cons invocation rest ih =>
    exact ih (h := h.happen now (.constructed d.id d.version invocation journaled))

/-- What comes of a construction that begins after something has been noticed. -/
theorem Host.construct_builtBy {g : Host} {context : Context} {f : Factory}
    (hsetup : g.setup = h.setup) (hregistry : g.registry = h.registry)
    (hinstances : g.instances = h.instances) (hpast : g.past = h.past) :
    h.BuiltBy (h.setup.buildingBy (h.invocations d.id) d context f)
      (match g.construct now f context (d.inContext context) (h.dependencies.arguments d.id) with
        | (.ok (.ok number), h) => (.ok (h.checkIdentity d.id number), h)
        | (unmade, h) => (unmade, h)) := by
  have hpolicy : g.settings = h.settings := congrArg Setup.settings hsetup
  have hearlier : g.invocations (d.inContext context).id = h.invocations d.id := by
    rw [Descriptor.inContext_id, invocations_eq, hpast, ← invocations_eq]
  unfold construct Setup.buildingBy
  rw [hpolicy, hearlier]
  simp only [setup]
  generalize instantiate h.settings.policy.syntheticFallback f (d.inContext context)
    (h.dependencies.arguments d.id) (h.invocations d.id) = made
  have hpast' : (g.noteInvocations now (d.inContext context) f.journaled made.invoked).past =
      h.past ++ made.invoked.map (.constructed d.id d.version · f.journaled) :=
    hpast ▸ past_noteInvocations ..
  have hsame : (g.noteInvocations now (d.inContext context) f.journaled made.invoked).setup =
      g.setup ∧ _ ∧ _ := noteInvocations_same ..
  obtain ⟨hsetup', hregistry', hinstances'⟩ := hsame
  generalize g.noteInvocations now (d.inContext context) f.journaled made.invoked = g' at *
  have hinstances'' : (g'.notice made.notices).instances = h.instances ++ [] :=
    (hinstances'.trans hinstances).trans (List.append_nil _).symm
  cases made.brokeDown with
  | some message =>
    exact ⟨rfl, hsetup'.trans hsetup, hregistry'.trans hregistry, hinstances'', hpast'⟩
  | none =>
  cases made.outcome with
  | error e =>
    exact ⟨rfl, hsetup'.trans hsetup, hregistry'.trans hregistry, hinstances'', hpast'⟩
  | ok b =>
    have hmade : (g'.notice made.notices).instances = h.instances := hinstances'.trans hinstances
    refine ⟨?_, hsetup'.trans hsetup, hregistry'.trans hregistry, ?_, hpast'⟩
    · have hnext : (g'.notice made.notices).nextInstance = h.nextInstance :=
        congrArg List.length hmade
      have hi : ((g'.notice made.notices).addInstance (.ofBlueprint b (some context))).instance?
          h.nextInstance = some (.ofBlueprint b (some context)) := by
        simp [addInstance, instance?, hmade, nextInstance]
      dsimp only [Building.checked]
      rw [hnext, checkIdentity_spec hi]
      split <;> rfl
    · simp [addInstance, hmade, Building.checked]

/-- What comes of a build depends on nothing but what the host was set up with and the
constructors that were invoked for the id. -/
theorem Host.build_builtBy (h : Host) (now : Nat) (d : Descriptor) :
    h.BuiltBy (h.setup.building (h.invocations d.id) d) (h.build now d) := by
  have hfailed (notices : List Notice) (e : HostError) :
      h.BuiltBy (.failed [] e) (.ok (.error e), h.notice notices) :=
    ⟨rfl, rfl, rfl, (List.append_nil _).symm, (List.append_nil _).symm⟩
  unfold build Setup.building
  split
  · exact hfailed [] _
  simp only [setup]
  cases hload : h.settings.layout.load h.files h.libraries d with
  | mk loaded notices =>
  cases loaded with
  | error e => exact hfailed notices _
  | ok context =>
    simp only [constructIn]
    have hfactories : (h.notice notices).factories = h.factories := rfl
    rw [hfactories]
    cases hresolve : context.resolve? h.factories d.entryPoint with
    | none => exact hfailed notices _
    | some f => exact construct_builtBy (g := (h.notice notices).notice _) rfl rfl rfl rfl

/-- Builds of which the same comes have the same result, but for the number. -/
theorem Host.BuiltBy.same {b : Building} {made made' : Except String (Except HostError Nat) × Host}
    (hb : h.BuiltBy b made) (hb' : k.BuiltBy b made') :
    made'.1 = made.1.map (·.map fun _ => k.nextInstance) := by
  rw [hb.result, hb'.result]
  cases b.outcome with
  | error message => rfl
  | ok result => cases result <;> rfl

/-! ## Happenings -/

/-- A happening without the number of the instance. -/
def Happening.unnumbered : Happening → Happening
  | .registered id _ => .registered id 0
  | .unregistered id _ => .unregistered id 0
  | .called _ call => .called 0 call
  | .ended _ call ending => .ended 0 call ending
  | .switched _ enabled => .switched 0 enabled
  | w => w

/-- The id that a happening is about. -/
def Host.idOf? (h : Host) : Happening → Option String
  | .constructed id _ _ _ | .registered id _ | .unregistered id _ | .gatewayCalled _ id _
  | .hookRun _ id _ => some id
  | .called n _ | .ended n _ _ | .switched n _ => (h.instance? n).map (·.id)

/-- What a happening is about stays the same as long as instances are what they were made as. -/
theorem Host.idOf?_later {w : Happening}
    (hi : ∀ {n i}, h.instance? n = some i → ∃ i', h'.instance? n = some i' ∧ i'.make = i.make)
    (hw : h.idOf? w = some id) : h'.idOf? w = some id := by
  cases w with
  | called | ended | switched =>
    obtain ⟨i, hn, rfl⟩ := Option.map_eq_some_iff.mp hw
    obtain ⟨i', hn', hmake⟩ := hi hn
    simp [idOf?, hn', Instance.id_eq_of_make hmake]
  | _ => exact hw

/-- Which constructor was invoked does not depend on the numbers of instances. -/
@[simp] theorem Happening.invocationFor?_unnumbered (w : Happening) :
    w.unnumbered.invocationFor? id = w.invocationFor? id := by
  cases w <;> rfl

/-- The constructors that a build invokes are about the id of the description. -/
theorem Setup.building_about {S : Setup} {w : Happening}
    (hw : w ∈ (S.building earlier d).invoked) : h.idOf? w = some d.id := by
  unfold Setup.building at hw
  split at hw
  · cases hw
  split at hw
  · cases hw
  split at hw
  · cases hw
  unfold Setup.buildingBy at hw
  dsimp only at hw
  split at hw <;> obtain ⟨_, _, rfl⟩ := List.mem_map.mp hw <;> rfl

/-! ## Alike hosts -/

/-- Two runs that are compared: the id that they are about, and what had happened on the two
hosts before. The same constructors had been invoked for the id. -/
structure TwoRuns where
  id : String
  before : List Happening
  before' : List Happening
  invoked : before.filterMap (Happening.invocationFor? id) =
    before'.filterMap (Happening.invocationFor? id)

/-- Something may have been noticed on a host, and nothing else has changed. -/
structure Host.Noticed (h h' : Host) : Prop where
  setup : h'.setup = h.setup
  registry : h'.registry = h.registry
  instances : h'.instances = h.instances
  past : h'.past = h.past

theorem Host.Noticed.refl (h : Host) : h.Noticed h := ⟨rfl, rfl, rfl, rfl⟩

theorem Host.Noticed.trans {h'' : Host} (hn : h.Noticed h') (hn' : h'.Noticed h'') :
    h.Noticed h'' :=
  ⟨hn'.setup.trans hn.setup, hn'.registry.trans hn.registry, hn'.instances.trans hn.instances,
    hn'.past.trans hn.past⟩

/-- What only takes note of something ends in a value, and nothing else has changed. -/
theorem Program.Works.ends_noticed {p : HostProgram Unit} {r : Except String Unit}
    (hp : p.Works fun _ => False) (hcalm : p.IsCalm) (hends : p.Ends t h r u h') :
    r = .ok () ∧ h.Noticed h' := by
  obtain ⟨steps, hrun⟩ := hends
  refine ⟨?_, hp.undisturbed hrun Host.Noticed.refl .trans fun h now x hx => ?_⟩
  · cases r with
    | ok _ => rfl
    | error message => exact (hcalm.run hrun).elim
  · rcases hx with hx | hx
    · cases x <;> first | exact hx.elim | exact ⟨rfl, rfl, rfl, rfl⟩
    · exact hx.elim

theorem noteFailure_calm {ε : Type} (notice : ε → Notice) (failed : Except ε Unit) :
    (noteFailure notice failed).IsCalm := by
  cases failed with
  | ok _ => exact trivial
  | error e => exact fun _ => trivial

theorem noteAll_noticed {notices : List Notice} {r : Except String Unit}
    (hends : (noteAll notices).Ends t h r u h') : r = .ok () ∧ h.Noticed h' :=
  (noteAll_works notices).ends_noticed (fun _ => trivial) hends

theorem noteFailure_noticed {ε : Type} {notice : ε → Notice} {failed : Except ε Unit}
    {r : Except String Unit} (hends : (noteFailure notice failed).Ends t h r u h') :
    r = .ok () ∧ h.Noticed h' :=
  (noteFailure_works notice failed).ends_noticed (noteFailure_calm notice failed) hends

variable {c : TwoRuns} {pairs ns : List (Nat × Nat)} {w w' : Happening}

/-- On two hosts the same is registered under the id, and the same has happened about it, if
the instances of these pairs of numbers stand for each other. -/
structure AlikeBy (c : TwoRuns) (pairs : List (Nat × Nat)) (h k : Host) : Prop where
  setup : h.setup.Like k.setup
  registered : Option.Rel (fun n m => (n, m) ∈ pairs) (h.registry.get? c.id) (k.registry.get? c.id)
  context : h.registry.context? c.id = k.registry.context? c.id
  instances : ∀ {n m}, (n, m) ∈ pairs →
    ∃ i j, h.instance? n = some i ∧ k.instance? m = some j ∧ i.Like j ∧ i.id = c.id
  single : ∀ {n m n' m'}, (n, m) ∈ pairs → (n', m') ∈ pairs → (n = n' ↔ m = m')
  past : ∃ new new', h.past = c.before ++ new ∧ k.past = c.before' ++ new' ∧
    new.map Happening.unnumbered = new'.map Happening.unnumbered ∧
    ∀ w ∈ new', k.idOf? w = some c.id

namespace AlikeBy

/-- Only what is registered, what the instances are like and what has happened matters. -/
theorem aside (ha : AlikeBy c pairs h k) (hs : h.Noticed h') (hs' : k.Noticed k') :
    AlikeBy c pairs h' k' := by
  have hinstance {g g' : Host} (hs : g.Noticed g') : g'.instance? = g.instance? := by
    funext n
    rw [Host.instance?, hs.instances, Host.instance?]
  refine ⟨hs.setup ▸ hs'.setup ▸ ha.setup, hs.registry ▸ hs'.registry ▸ ha.registered,
    hs.registry ▸ hs'.registry ▸ ha.context, ?_, ha.single, ?_⟩
  · rw [hinstance hs, hinstance hs']
    exact ha.instances
  · obtain ⟨new, new', hpast, hpast', hsame, habout⟩ := ha.past
    refine ⟨new, new', hs.past.trans hpast, hs'.past.trans hpast', hsame, fun w hw => ?_⟩
    exact Host.idOf?_later (fun hi => ⟨_, hinstance hs' ▸ hi, rfl⟩) (habout w hw)

theorem notice (ha : AlikeBy c pairs h k) (l l' : List Notice) :
    AlikeBy c pairs (h.notice l) (k.notice l') :=
  ha.aside ⟨rfl, rfl, rfl, rfl⟩ ⟨rfl, rfl, rfl, rfl⟩

theorem happen (ha : AlikeBy c pairs h k) (hw : w.unnumbered = w'.unnumbered)
    (hid : k.idOf? w' = some c.id) : AlikeBy c pairs (h.happen t w) (k.happen u w') := by
  obtain ⟨new, new', hpast, hpast', hsame, habout⟩ := ha.past
  refine ⟨ha.setup, ha.registered, ha.context, ha.instances, ha.single, new ++ [w], new' ++ [w'],
    by simp [hpast], by simp [hpast'], by simp [hsame, hw], ?_⟩
  exact List.forall_mem_append.mpr ⟨habout, List.forall_mem_singleton.mpr hid⟩

theorem modifyInstance {f g : Instance → Instance} (ha : AlikeBy c pairs h k)
    (hp : (n, m) ∈ pairs) (hlike : ∀ {i j}, i.Like j → (f i).Like (g j))
    (hf : ∀ i, (f i).make = i.make) (hg : ∀ i, (g i).make = i.make) :
    AlikeBy c pairs (h.modifyInstance n f) (k.modifyInstance m g) := by
  have hgrew := (Host.Grew.refl k).modifyInstance m hg
  refine ⟨ha.setup, ha.registered, ha.context, fun {n' m'} hp' => ?_, ha.single, ?_⟩
  · obtain ⟨i, j, hi, hj, hij, hid⟩ := ha.instances hp'
    rw [Host.instance?_modifyInstance, Host.instance?_modifyInstance, hi, hj]
    by_cases hn : n = n'
    · rw [if_pos hn, if_pos ((ha.single hp hp').mp hn)]
      exact ⟨f i, g j, rfl, rfl, hlike hij, (Instance.id_eq_of_make (hf i)).trans hid⟩
    · rw [if_neg hn, if_neg fun hm => hn ((ha.single hp hp').mpr hm)]
      exact ⟨i, j, rfl, rfl, hij, hid⟩
  · obtain ⟨new, new', hpast, hpast', hsame, habout⟩ := ha.past
    exact ⟨new, new', hpast, hpast', hsame, fun w hw =>
      Host.idOf?_later hgrew.instances (habout w hw)⟩

/-- A call of either instance gets the same answer. -/
theorem beginCall (ha : AlikeBy c pairs h k) (hp : (n, m) ∈ pairs) (call : Call) :
    (h.beginCall t n call).1 = (k.beginCall u m call).1 ∧
      AlikeBy c pairs (h.beginCall t n call).2 (k.beginCall u m call).2 := by
  obtain ⟨i, j, hi, hj, hij, hid⟩ := ha.instances hp
  rw [Host.beginCall_some hi, Host.beginCall_some hj]
  have hmodified := ha.modifyInstance hp (f := (·.callBegun call)) (g := (·.callBegun call))
    (fun hij => hij.callBegun call) (fun _ => rfl) (fun _ => rfl)
  refine ⟨hij.response call, hmodified.happen rfl ?_⟩
  simp [Host.idOf?, Host.instance?_modifyInstance, hj, ← hij.id_eq, hid]

theorem endCall (ha : AlikeBy c pairs h k) (hp : (n, m) ∈ pairs) (call : Call) (ending : Ending) :
    AlikeBy c pairs (h.endCall t n call ending) (k.endCall u m call ending) := by
  obtain ⟨i, j, hi, hj, hij, hid⟩ := ha.instances hp
  have hmodified := ha.modifyInstance hp (f := (·.callEnded call ending))
    (g := (·.callEnded call ending)) (fun hij => hij.callEnded call ending)
    (fun i => i.make_callEnded call ending) (fun i => i.make_callEnded call ending)
  refine hmodified.happen rfl ?_
  simp [Host.idOf?, Host.instance?_modifyInstance, hj, ← hij.id_eq, hid]

theorem switch (ha : AlikeBy c pairs h k) (hp : (n, m) ∈ pairs) (enabled : Bool) :
    AlikeBy c pairs (h.switch t n enabled) (k.switch u m enabled) := by
  obtain ⟨i, j, hi, hj, hij, hid⟩ := ha.instances hp
  have hmodified := ha.modifyInstance hp (f := (·.setEnabled t enabled))
    (g := (·.setEnabled u enabled)) (fun hij => hij.setEnabled enabled) (fun _ => rfl)
    (fun _ => rfl)
  refine hmodified.happen rfl ?_
  simp [Host.idOf?, Host.instance?_modifyInstance, hj, ← hij.id_eq, hid]

theorem register (ha : AlikeBy c pairs h k) (hp : (n, m) ∈ pairs) :
    (h.register t c.id n).1 = (k.register u c.id m).1 ∧
      AlikeBy c pairs (h.register t c.id n).2 (k.register u c.id m).2 := by
  cases hblank : isBlankText c.id with
  | true =>
    rw [Host.register_blank hblank, Host.register_blank hblank]
    exact ⟨rfl, ha⟩
  | false =>
    obtain ⟨i, j, hi, hj, hij, hid⟩ := ha.instances hp
    rw [Host.register_not_blank hblank, Host.register_not_blank hblank]
    have hinserted : AlikeBy c pairs { h with
        registry := h.registry.insert c.id n ((h.instance? n).bind (·.context)) } { k with
        registry := k.registry.insert c.id m ((k.instance? m).bind (·.context)) } :=
      ⟨ha.setup, by simpa using hp, by simp [hi, hj, hij.context], ha.instances, ha.single, ha.past⟩
    have hhappened : AlikeBy c pairs (Host.happen _ t (.registered c.id n))
        (Host.happen _ u (.registered c.id m)) := hinserted.happen rfl rfl
    exact ⟨rfl, hhappened.notice _ _⟩

theorem unregister (ha : AlikeBy c pairs h k) :
    AlikeBy c pairs (h.unregister t c.id).2 (k.unregister u c.id).2 := by
  have herased : AlikeBy c pairs { h with registry := h.registry.erase c.id }
      { k with registry := k.registry.erase c.id } :=
    ⟨ha.setup, by simp, by simp, ha.instances, ha.single, ha.past⟩
  have hregistered := ha.registered
  cases hn : h.registry.get? c.id <;> cases hm : k.registry.get? c.id <;>
    rw [hn, hm] at hregistered <;> cases hregistered
  · rw [Host.unregister_none hn, Host.unregister_none hm]
    exact herased
  · rw [Host.unregister_some hn, Host.unregister_some hm]
    exact herased.happen rfl rfl

/-- Two more instances stand for each other. -/
theorem pair (ha : AlikeBy c pairs h k) (hi : h.instance? n = some i) (hj : k.instance? m = some j)
    (hij : i.Like j) (hid : i.id = c.id)
    (hnew : ∀ {n' m'}, (n', m') ∈ pairs → n ≠ n' ∧ m ≠ m') : AlikeBy c ((n, m) :: pairs) h k := by
  have hadded {p : Nat × Nat} (hp : p ∈ pairs) : p ∈ (n, m) :: pairs := List.mem_cons_of_mem _ hp
  refine ⟨ha.setup, ?_, ha.context, fun hp => ?_, fun hp hp' => ?_, ha.past⟩
  · have hregistered := ha.registered
    revert hregistered
    generalize h.registry.get? c.id = found, k.registry.get? c.id = found'
    rintro (hp | _)
    · exact .some (hadded hp)
    · exact .none
  · rcases List.mem_cons.mp hp with hp | hp
    · cases hp
      exact ⟨i, j, hi, hj, hij, hid⟩
    · exact ha.instances hp
  · rcases List.mem_cons.mp hp with hp | hp <;> rcases List.mem_cons.mp hp' with hp' | hp'
    · cases hp
      cases hp'
      exact iff_of_true rfl rfl
    · cases hp
      exact iff_of_false (hnew hp').1 (hnew hp').2
    · cases hp'
      exact iff_of_false (hnew hp).1.symm (hnew hp).2.symm
    · exact ha.single hp hp'

/-- The same constructors have been invoked for the id. -/
theorem invocations (ha : AlikeBy c pairs h k) : h.invocations c.id = k.invocations c.id := by
  have hnumbers (l : List Happening) : l.filterMap (Happening.invocationFor? c.id) =
      (l.map Happening.unnumbered).filterMap (Happening.invocationFor? c.id) := by
    simp [List.filterMap_map]
  obtain ⟨new, new', hpast, hpast', hsame, -⟩ := ha.past
  rw [Host.invocations_eq, Host.invocations_eq, hpast, hpast', List.filterMap_append,
    List.filterMap_append, c.invoked, hnumbers new, hnumbers new', hsame]

/-- A build adds the same on both hosts. -/
theorem grown {b : Building} {made made' : Except String (Except HostError Nat) × Host}
    (ha : AlikeBy c pairs h k) (hb : h.BuiltBy b made) (hb' : k.BuiltBy b made')
    (habout : ∀ w ∈ b.invoked, made'.2.idOf? w = some c.id) : AlikeBy c pairs made.2 made'.2 := by
  have hkept {g : Host} {made : Except String (Except HostError Nat) × Host}
      (hb : g.BuiltBy b made) {n : Nat} {i : Instance} (hi : g.instance? n = some i) :
      made.2.instance? n = some i := by
    rw [Host.instance?, hb.instances, List.getElem?_append_left (Host.instance?_lt hi)]
    exact hi
  refine ⟨by rw [hb.setup, hb'.setup]; exact ha.setup, ?_, ?_, fun hp => ?_, ha.single, ?_⟩
  · rw [hb.registry, hb'.registry]
    exact ha.registered
  · rw [hb.registry, hb'.registry]
    exact ha.context
  · obtain ⟨i, j, hi, hj, hij⟩ := ha.instances hp
    exact ⟨i, j, hkept hb hi, hkept hb' hj, hij⟩
  · obtain ⟨new, new', hpast, hpast', hsame, hnew⟩ := ha.past
    refine ⟨new ++ b.invoked, new' ++ b.invoked, by rw [hb.past, hpast, List.append_assoc],
      by rw [hb'.past, hpast', List.append_assoc], by simp [hsame], ?_⟩
    refine List.forall_mem_append.mpr ⟨fun w hw => Host.idOf?_later ?_ (hnew w hw), habout⟩
    exact fun hi => ⟨_, hkept hb' hi, rfl⟩

/-- What is built on both hosts are instances that stand for each other. -/
theorem build (ha : AlikeBy c pairs h k) (hd : d.id = c.id) :
    (∃ message, (h.build t d).1 = .error message ∧ (k.build u d).1 = .error message ∧
      AlikeBy c pairs (h.build t d).2 (k.build u d).2) ∨
    (∃ e, (h.build t d).1 = .ok (.error e) ∧ (k.build u d).1 = .ok (.error e) ∧
      AlikeBy c pairs (h.build t d).2 (k.build u d).2) ∨
    ∃ n m, (h.build t d).1 = .ok (.ok n) ∧ (k.build u d).1 = .ok (.ok m) ∧
      AlikeBy c ((n, m) :: pairs) (h.build t d).2 (k.build u d).2 := by
  have hb := h.build_builtBy t d
  have hb' := k.build_builtBy u d
  have hearlier : k.invocations d.id = h.invocations d.id := by rw [hd, ha.invocations]
  rw [hearlier, ← ha.setup.building] at hb'
  have hgrown := ha.grown hb hb' fun w hw => (Setup.building_about hw).trans (congrArg some hd)
  have hmakes := h.build_makes t d
  generalize h.setup.building (h.invocations d.id) d = b at hb hb'
  generalize h.build t d = made at hb hmakes hgrown
  generalize k.build u d = made' at hb' hgrown
  cases hmakes with
  | brokeDown hbuilt => exact .inl ⟨_, rfl, hb.same hb', hgrown⟩
  | failed hbuilt => exact .inr (.inl ⟨_, rfl, hb.same hb', hgrown⟩)
  | @made bp context g hbuilt hid =>
    refine .inr (.inr ⟨_, _, rfl, hb.same hb', hgrown.pair hbuilt.instance?_next ?_ (.refl _)
      (hid.trans hd) ?_⟩)
    · have hlist : b.made.toList = [.ofBlueprint bp (some context)] :=
        List.append_cancel_left (hb.instances.symm.trans hbuilt.instances)
      rw [Host.instance?, hb'.instances, hlist]
      exact List.getElem?_concat_length
    · -- The new numbers are those after all that there were.
      intro n' m' hp
      obtain ⟨i, j, hi, hj, -⟩ := ha.instances hp
      exact ⟨Nat.ne_of_gt (Host.instance?_lt hi), Nat.ne_of_gt (Host.instance?_lt hj)⟩

end AlikeBy

/-- Two hosts are alike, and the instances of these pairs of numbers, and maybe of others, stand
for each other. -/
def Alike (c : TwoRuns) (ns : List (Nat × Nat)) (h k : Host) : Prop :=
  ∃ pairs, (∀ p ∈ ns, p ∈ pairs) ∧ AlikeBy c pairs h k

theorem Alike.weaken (ha : Alike c ns h k) : Alike c [] h k := by
  obtain ⟨pairs, -, hby⟩ := ha
  exact ⟨pairs, nofun, hby⟩

theorem Alike.cons {p : Nat × Nat} (ha : Alike c (p :: ns) h k) : Alike c ns h k := by
  obtain ⟨pairs, hns, hby⟩ := ha
  exact ⟨pairs, (List.forall_mem_cons.mp hns).2, hby⟩

theorem Alike.setup (ha : Alike c ns h k) : h.setup.Like k.setup := by
  obtain ⟨pairs, -, hby⟩ := ha
  exact hby.setup

theorem Alike.instances (ha : Alike c ns h k) (hp : (n, m) ∈ ns) :
    ∃ i j, h.instance? n = some i ∧ k.instance? m = some j ∧ i.Like j ∧ i.id = c.id := by
  obtain ⟨pairs, hns, hby⟩ := ha
  exact hby.instances (hns _ hp)

/-- What is registered under the id on the one host stands for what is on the other. -/
theorem Alike.found (ha : Alike c ns h k) :
    (h.registry.get? c.id = none ∧ k.registry.get? c.id = none) ∨
      ∃ n m, h.registry.get? c.id = some n ∧ k.registry.get? c.id = some m ∧
        Alike c ((n, m) :: ns) h k := by
  obtain ⟨pairs, hns, hby⟩ := ha
  have hregistered := hby.registered
  cases hn : h.registry.get? c.id <;> cases hm : k.registry.get? c.id <;>
    rw [hn, hm] at hregistered <;> cases hregistered
  · exact .inl ⟨rfl, rfl⟩
  · exact .inr ⟨_, _, rfl, rfl, pairs, List.forall_mem_cons.mpr ⟨‹_›, hns⟩, hby⟩

end ExtensionHost
