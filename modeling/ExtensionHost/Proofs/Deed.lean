import ExtensionHost.Host.Lifecycle

/-!
# Deeds

Every step that a lifecycle program makes on a host is one of a few deeds. What a
deed does to the parts of the host is said here once: to what the host was set up
with, to the instances, to the registry and to the history. Programs are treated
by the deeds they do.
-/

namespace ExtensionHost

/-! ## Parts of a host -/

/-- What a host was set up with. The lifecycle of extensions changes nothing of it. -/
structure Setup where
  settings : Settings
  files : FileTree
  libraries : Path → Option Library
  factories : FactoryTable
  dependencies : DependencyTable
  hooks : List CleanupHook
  gateways : List (ProtocolFamily × Gateway)

/-- What the host was set up with. -/
def Host.setup (h : Host) : Setup :=
  ⟨h.settings, h.files, h.libraries, h.factories, h.dependencies, h.hooks, h.gateways⟩

/-- What an instance was made as: its description, its context and its conduct. -/
def Instance.make (i : Instance) : Descriptor × Option Context × Conduct :=
  (i.descriptor, i.context, i.conduct)

/-- What has happened, the first thing first. -/
def Host.past (h : Host) : List Happening :=
  (h.history.map (·.2)).reverse

/-- What has happened since an earlier state, the first thing first. -/
def Host.since (h' h : Host) : List Happening :=
  h'.past.drop h.past.length

theorem Host.since_eq {h h' : Host} {new : List Happening} (hpast : h'.past = h.past ++ new) :
    h'.since h = new := by
  rw [since, hpast, List.drop_left]

/-! ## The registry -/

@[simp] theorem Registry.get?_insert {r : Registry} {id k : String} {number : Nat}
    {context : Option Context} :
    (r.insert id number context).get? k = if k = id then some number else r.get? k := by
  cases context <;> exact lookup_insertEntry

@[simp] theorem Registry.get?_erase {r : Registry} {id k : String} :
    (r.erase id).get? k = if k = id then none else r.get? k :=
  lookup_eraseEntry

@[simp] theorem Registry.context?_insert {r : Registry} {id k : String} {number : Nat}
    {context : Option Context} :
    (r.insert id number context).context? k = if k = id then context else r.context? k := by
  cases context with
  | none => exact lookup_eraseEntry
  | some context => exact lookup_insertEntry

@[simp] theorem Registry.context?_erase {r : Registry} {id k : String} :
    (r.erase id).context? k = if k = id then none else r.context? k :=
  lookup_eraseEntry

/-! ## Instances and the past -/

theorem Host.instance?_modifyInstance {h : Host} {n m : Nat} {f : Instance → Instance} :
    (h.modifyInstance n f).instance? m =
      if n = m then (h.instance? m).map f else h.instance? m := by
  simp only [instance?, modifyInstance, List.getElem?_modify]
  split <;> simp

theorem Host.instance?_lt {h : Host} {n : Nat} {i : Instance} (hi : h.instance? n = some i) :
    n < h.nextInstance :=
  (List.getElem?_eq_some_iff.mp hi).1

@[simp] theorem Host.past_happen {h : Host} {now : Nat} {what : Happening} :
    (h.happen now what).past = h.past ++ [what] := by
  simp [past, happen]

@[simp] theorem Host.past_notice {h : Host} {notices : List Notice} :
    (h.notice notices).past = h.past := rfl

@[simp] theorem Host.past_modifyInstance {h : Host} {n : Nat} {f : Instance → Instance} :
    (h.modifyInstance n f).past = h.past := rfl

/-- What has been invoked for an id is what has been constructed for it, the last first. -/
theorem Host.invocations_eq (h : Host) (id : String) :
    h.invocations id = (h.past.filterMap (Happening.invocationFor? id)).reverse := by
  rw [past, List.filterMap_reverse, List.reverse_reverse, List.filterMap_map]
  rfl

theorem Host.invocations_of_past {h h' : Host} {id : String} {new : List Happening}
    (hpast : h'.past = h.past ++ new) :
    h'.invocations id =
      (new.filterMap (Happening.invocationFor? id)).reverse ++ h.invocations id := by
  rw [invocations_eq, invocations_eq, hpast, List.filterMap_append, List.reverse_append]

/-! ## Operations -/

theorem Host.beginCall_some {h : Host} {now n : Nat} {call : Call} {i : Instance}
    (hi : h.instance? n = some i) :
    h.beginCall now n call =
      (i.response call, (h.modifyInstance n (·.callBegun call)).happen now (.called n call)) := by
  simp only [beginCall, hi]

theorem Host.beginCall_none {h : Host} {now n : Nat} {call : Call} (hi : h.instance? n = none) :
    h.beginCall now n call = (.immediate, h) := by
  simp only [beginCall, hi]

theorem Host.register_blank {h : Host} {now n : Nat} {id : String} (hid : isBlankText id = true) :
    h.register now id n =
      (.error (.invalidRegistration "extension id cannot be empty"), h) := by
  simp [register, hid]

theorem Host.register_not_blank {h : Host} {now n : Nat} {id : String}
    (hid : isBlankText id = false) :
    h.register now id n =
      (.ok (), ({ h with
        registry := h.registry.insert id n ((h.instance? n).bind (·.context)) }.happen now
          (.registered id n)).notice
        (if (h.registry.get? id).isSome then [.recordReplaced id] else [])) := by
  simp [register, hid]

theorem Host.unregister_none {h : Host} {now : Nat} {id : String}
    (hn : h.registry.get? id = none) :
    h.unregister now id = (none, { h with registry := h.registry.erase id }) := by
  simp only [unregister, hn]

theorem Host.unregister_some {h : Host} {now n : Nat} {id : String}
    (hn : h.registry.get? id = some n) :
    h.unregister now id =
      (some n, { h with registry := h.registry.erase id }.happen now (.unregistered id n)) := by
  simp only [unregister, hn]

@[simp] theorem Host.unregister_registry {h : Host} {now : Nat} {id : String} :
    (h.unregister now id).2.registry = h.registry.erase id := by
  unfold unregister
  cases h.registry.get? id <;> rfl

/-! ## Building -/

/-- A host that has built something for an id and a version: it has noticed things,
invoked constructors and kept new instances, and nothing else of it is different. -/
structure Host.Built (h : Host) (id version : String) (made : List Instance) (h' : Host) :
    Prop where
  setup : h'.setup = h.setup
  registry : h'.registry = h.registry
  instances : h'.instances = h.instances ++ made
  past : ∃ new, h'.past = h.past ++ new ∧
    ∀ w ∈ new, ∃ invocation journaled, w = .constructed id version invocation journaled

namespace Host.Built

variable {h h' : Host} {id version : String} {made : List Instance}

theorem refl (h : Host) (id version : String) : h.Built id version [] h :=
  ⟨rfl, rfl, (List.append_nil _).symm, [], (List.append_nil _).symm, by simp⟩

theorem notice (hb : h.Built id version made h') (notices : List Notice) :
    h.Built id version made (h'.notice notices) :=
  ⟨hb.setup, hb.registry, hb.instances, hb.past⟩

theorem noteInvocations {d : Descriptor} (hb : h.Built d.id d.version made h') (now : Nat)
    (journaled : Bool) (invoked : List Invocation) :
    h.Built d.id d.version made (h'.noteInvocations now d journaled invoked) := by
  unfold Host.noteInvocations
  induction invoked generalizing h' with
  | nil => exact hb
  | cons invocation rest ih =>
    refine ih ⟨hb.setup, hb.registry, hb.instances, ?_⟩
    obtain ⟨new, hpast, hnew⟩ := hb.past
    refine ⟨new ++ [.constructed d.id d.version invocation journaled], by simp [hpast], ?_⟩
    refine List.forall_mem_append.mpr ⟨hnew, ?_⟩
    exact List.forall_mem_singleton.mpr ⟨invocation, journaled, rfl⟩

theorem addInstance (hb : h.Built id version [] h') (i : Instance) :
    h.Built id version [i] (h'.addInstance i) :=
  ⟨hb.setup, hb.registry, by simp [Host.addInstance, hb.instances], hb.past⟩

theorem nextInstance (hb : h.Built id version [] h') : h'.nextInstance = h.nextInstance := by
  simp [Host.nextInstance, hb.instances]

theorem instance?_next {i : Instance} (hb : h.Built id version [i] h') :
    h'.instance? h.nextInstance = some i := by
  simp [Host.instance?, Host.nextInstance, hb.instances]

/-- What was built before is still there. -/
theorem instance?_eq {n : Nat} {i : Instance} (hb : h.Built id version made h')
    (hi : h.instance? n = some i) : h'.instance? n = some i := by
  rw [Host.instance?, hb.instances]
  exact List.getElem?_append_left (instance?_lt hi) ▸ hi

end Host.Built

theorem Host.past_noteInvocations {h : Host} {now : Nat} {d : Descriptor} (journaled : Bool)
    (invoked : List Invocation) :
    (h.noteInvocations now d journaled invoked).past =
      h.past ++ invoked.map (.constructed d.id d.version · journaled) := by
  induction invoked generalizing h with
  | nil => simp [noteInvocations]
  | cons invocation rest ih =>
    refine (ih (h := h.happen now (.constructed d.id d.version invocation journaled))).trans ?_
    simp

/-- What comes of a construction: a break-down, a failure, or a fresh instance under the
next number that is as it is meant to be. A failed one may leave behind an instance that
is not to be used. -/
inductive Host.Makes (h : Host) (id version : String) (meant : Instance → Prop) :
    Except String (Except HostError Nat) × Host → Prop where
  | brokeDown {message : String} {h' : Host} :
    h.Built id version [] h' → Makes h id version meant (.error message, h')
  | failed {e : HostError} {made : List Instance} {h' : Host} :
    h.Built id version made h' → Makes h id version meant (.ok (.error e), h')
  | made {b : Blueprint} {context : Context} {h' : Host} :
    h.Built id version [.ofBlueprint b (some context)] h' →
    meant (.ofBlueprint b (some context)) →
    Makes h id version meant (.ok (.ok h.nextInstance), h')

theorem Host.Built.construct {h h' : Host} {d : Descriptor} (hb : h.Built d.id d.version [] h')
    (now : Nat) (f : Factory) (context : Context) (args : List DependencyValue) :
    h.Makes d.id d.version (fun _ => True) (h'.construct now f context d args) := by
  -- The constructors that were tried are noted, whether one of them has succeeded or not.
  have hb' := fun invoked notices => (hb.noteInvocations now f.journaled invoked).notice notices
  unfold Host.construct
  dsimp only
  split
  · exact .brokeDown (hb' _ _)
  · exact .failed (hb' _ _)
  · rw [(hb' _ _).nextInstance]
    exact .made ((hb' _ _).addInstance _) trivial

theorem Host.Built.constructIn {h h' : Host} {d : Descriptor} (hb : h.Built d.id d.version [] h')
    (now : Nat) (context : Context) :
    h.Makes d.id d.version (fun _ => True) (h'.constructIn now context d) := by
  unfold Host.constructIn
  split
  · exact .failed hb
  · exact Built.construct (d := d.inContext context) (hb.notice _) now _ context _

/-- The identity check passes only for an instance that reports the id. -/
theorem Host.checkIdentity_spec {h : Host} {id : String} {number : Nat} {i : Instance}
    (hi : h.instance? number = some i) :
    h.checkIdentity id number =
      if i.id = id then .ok number else .error (.instantiation (.identityMismatch id i.id)) := by
  simp only [checkIdentity, hi]

/-- A build breaks down, fails, or makes an instance that reports the id. -/
theorem Host.build_makes (h : Host) (now : Nat) (d : Descriptor) :
    h.Makes d.id d.version (·.id = d.id) (h.build now d) := by
  have hb := Built.refl h d.id d.version
  unfold build
  split
  · exact .failed hb
  split
  · exact .failed (hb.notice _)
  next context notices _ =>
    have hmakes := (hb.notice notices).constructIn now context
    split
    next number h' heq =>
      rw [heq] at hmakes
      cases hmakes with
      | made hb =>
        -- The instance is kept by now, and stays even if it reports another id.
        rw [checkIdentity_spec (hb.instance?_next)]
        split
        · exact .made hb ‹_›
        · exact .failed hb
    next unmade h' hunmade heq =>
      rw [heq] at hmakes
      cases hmakes with
      | brokeDown hb => exact .brokeDown hb
      | failed hb => exact .failed hb
      | made => exact absurd rfl (hunmade _)

/-! ## Deeds -/

/-- What a program can do to a host in one step. -/
inductive Deed where
  | nothing
  | notice (notices : List Notice)
  | beginCall (number : Nat) (call : Call)
  | endCall (number : Nat) (call : Call) (ending : Ending)
  | switch (number : Nat) (enabled : Bool)
  | callGateway (family : ProtocolFamily) (id : String) (call : GatewayCall)
  | runHook (hook id : String) (phase : CleanupPhase)
  | build (d : Descriptor)
  | register (id : String) (number : Nat)
  | unregister (id : String)

/-- The host after a deed at a time. -/
def Host.perform (h : Host) (now : Nat) : Deed → Host
  | .nothing => h
  | .notice notices => h.notice notices
  | .beginCall number call => (h.beginCall now number call).2
  | .endCall number call ending => h.endCall now number call ending
  | .switch number enabled => h.switch now number enabled
  | .callGateway family id call => h.happen now (.gatewayCalled family id call)
  | .runHook hook id phase => h.happen now (.hookRun hook id phase)
  | .build d => (h.build now d).2
  | .register id number => (h.register now id number).2
  | .unregister id => (h.unregister now id).2

/-- Whether a deed leaves the registry alone. -/
def Deed.SparesRegistry : Deed → Prop
  | .register _ _ | .unregister _ => False
  | _ => True

/-- What a deed leaves in the history, if it leaves anything there. -/
def Deed.Leaves : Deed → Happening → Prop
  | .nothing, _ | .notice _, _ => False
  | .beginCall number call, w => w = .called number call
  | .endCall number call ending, w => w = .ended number call ending
  | .switch number enabled, w => w = .switched number enabled
  | .callGateway family id call, w => w = .gatewayCalled family id call
  | .runHook hook id phase, w => w = .hookRun hook id phase
  | .build d, w => ∃ invocation journaled, w = .constructed d.id d.version invocation journaled
  | .register id number, w => w = .registered id number
  | .unregister id, w => ∃ number, w = .unregistered id number

@[simp] theorem Deed.leaves_called {d : Deed} {n : Nat} {call : Call} :
    d.Leaves (.called n call) ↔ d = .beginCall n call := by
  cases d <;> grind [Leaves]

@[simp] theorem Deed.leaves_ended {d : Deed} {n : Nat} {call : Call} {ending : Ending} :
    d.Leaves (.ended n call ending) ↔ d = .endCall n call ending := by
  cases d <;> grind [Leaves]

@[simp] theorem Deed.leaves_switched {d : Deed} {n : Nat} {enabled : Bool} :
    d.Leaves (.switched n enabled) ↔ d = .switch n enabled := by
  cases d <;> grind [Leaves]

@[simp] theorem Deed.leaves_constructed {d : Deed} {id version : String} {invocation : Invocation}
    {journaled : Bool} :
    d.Leaves (.constructed id version invocation journaled) ↔
      ∃ d', d = .build d' ∧ d'.id = id ∧ d'.version = version := by
  cases d <;> grind [Leaves]

@[simp] theorem Deed.leaves_registered {d : Deed} {id : String} {n : Nat} :
    d.Leaves (.registered id n) ↔ d = .register id n := by
  cases d <;> grind [Leaves]

@[simp] theorem Deed.leaves_unregistered {d : Deed} {id : String} {n : Nat} :
    d.Leaves (.unregistered id n) ↔ d = .unregister id := by
  cases d <;> grind [Leaves]

section Left

variable {allowed : Deed → Prop} {new : List Happening}

/-- What no allowed deed leaves is not among what allowed deeds have left. -/
theorem Deed.not_left {w : Happening} (hleft : ∀ w ∈ new, ∃ d : Deed, allowed d ∧ d.Leaves w)
    (hnone : ∀ d : Deed, d.Leaves w → ¬ allowed d) : w ∉ new := by
  intro hmem
  obtain ⟨d, hd, hleaves⟩ := hleft w hmem
  exact hnone d hleaves hd

theorem Deed.called_not_left {n : Nat} {call : Call}
    (hleft : ∀ w ∈ new, ∃ d : Deed, allowed d ∧ d.Leaves w)
    (hnone : ¬ allowed (.beginCall n call)) : .called n call ∉ new :=
  not_left hleft fun _ hleaves => leaves_called.mp hleaves ▸ hnone

theorem Deed.ended_not_left {n : Nat} {call : Call} {ending : Ending}
    (hleft : ∀ w ∈ new, ∃ d : Deed, allowed d ∧ d.Leaves w)
    (hnone : ¬ allowed (.endCall n call ending)) : .ended n call ending ∉ new :=
  not_left hleft fun _ hleaves => leaves_ended.mp hleaves ▸ hnone

theorem Deed.switched_not_left {n : Nat} {enabled : Bool}
    (hleft : ∀ w ∈ new, ∃ d : Deed, allowed d ∧ d.Leaves w)
    (hnone : ¬ allowed (.switch n enabled)) : .switched n enabled ∉ new :=
  not_left hleft fun _ hleaves => leaves_switched.mp hleaves ▸ hnone

theorem Deed.constructed_not_left {id version : String} {invocation : Invocation}
    {journaled : Bool} (hleft : ∀ w ∈ new, ∃ d : Deed, allowed d ∧ d.Leaves w)
    (hnone : ∀ d, ¬ allowed (.build d)) : .constructed id version invocation journaled ∉ new := by
  refine not_left hleft fun d hleaves => ?_
  obtain ⟨d', rfl, -⟩ := leaves_constructed.mp hleaves
  exact hnone d'

theorem Deed.registered_not_left {id : String} {n : Nat}
    (hleft : ∀ w ∈ new, ∃ d : Deed, allowed d ∧ d.Leaves w)
    (hnone : ¬ allowed (.register id n)) : .registered id n ∉ new :=
  not_left hleft fun _ hleaves => leaves_registered.mp hleaves ▸ hnone

theorem Deed.unregistered_not_left {id : String} {n : Nat}
    (hleft : ∀ w ∈ new, ∃ d : Deed, allowed d ∧ d.Leaves w)
    (hnone : ¬ allowed (.unregister id)) : .unregistered id n ∉ new :=
  not_left hleft fun _ hleaves => leaves_unregistered.mp hleaves ▸ hnone

end Left

/-- What stays of a host whatever is done to it: what it was set up with, what its
instances were made as, and what has happened. -/
structure Host.Grew (h h' : Host) : Prop where
  setup : h'.setup = h.setup
  instances : ∀ {n i}, h.instance? n = some i → ∃ i', h'.instance? n = some i' ∧ i'.make = i.make
  past : ∃ new, h'.past = h.past ++ new

theorem Host.Grew.refl (h : Host) : h.Grew h :=
  ⟨rfl, fun hi => ⟨_, hi, rfl⟩, [], (List.append_nil _).symm⟩

theorem Host.Grew.trans {h h' h'' : Host} (hg : h.Grew h') (hg' : h'.Grew h'') : h.Grew h'' where
  setup := hg'.setup.trans hg.setup
  instances hi := by
    obtain ⟨i', hi', hmake⟩ := hg.instances hi
    obtain ⟨i'', hi'', hmake'⟩ := hg'.instances hi'
    exact ⟨i'', hi'', hmake'.trans hmake⟩
  past := by
    obtain ⟨new, hpast⟩ := hg.past
    obtain ⟨new', hpast'⟩ := hg'.past
    exact ⟨new ++ new', by rw [hpast', hpast, List.append_assoc]⟩

theorem Instance.make_callEnded (i : Instance) (call : Call) (ending : Ending) :
    (i.callEnded call ending).make = i.make := by
  unfold Instance.callEnded
  split <;> try rfl
  split <;> rfl

/-- No call enables or disables an instance. -/
theorem Instance.enabled_callEnded (i : Instance) (call : Call) (ending : Ending) :
    (i.callEnded call ending).enabled = i.enabled := by
  unfold Instance.callEnded
  split <;> try rfl
  split <;> rfl

theorem Host.Grew.modifyInstance {h h' : Host} (hg : h.Grew h') (n : Nat)
    {f : Instance → Instance} (hf : ∀ i, (f i).make = i.make) :
    h.Grew (h'.modifyInstance n f) where
  setup := hg.setup
  past := hg.past
  instances {m i} hi := by
    obtain ⟨i', hi', hmake⟩ := hg.instances hi
    rw [instance?_modifyInstance]
    split
    · exact ⟨f i', by simp [hi'], (hf i').trans hmake⟩
    · exact ⟨i', hi', hmake⟩

theorem Host.Grew.happen {h h' : Host} (hg : h.Grew h') (now : Nat) (what : Happening) :
    h.Grew (h'.happen now what) where
  setup := hg.setup
  instances := hg.instances
  past := by
    obtain ⟨new, hpast⟩ := hg.past
    exact ⟨new ++ [what], by simp [hpast]⟩

theorem Host.Built.grew {h h' : Host} {id version : String} {made : List Instance}
    (hb : h.Built id version made h') : h.Grew h' where
  setup := hb.setup
  past := by
    obtain ⟨new, hpast, -⟩ := hb.past
    exact ⟨new, hpast⟩
  instances hi := ⟨_, hb.instance?_eq hi, rfl⟩

theorem Host.Makes.built {h : Host} {id version : String} {meant : Instance → Prop}
    {r : Except String (Except HostError Nat) × Host} (hm : h.Makes id version meant r) :
    ∃ made, h.Built id version made r.2 := by
  cases hm with
  | brokeDown hb => exact ⟨_, hb⟩
  | failed hb => exact ⟨_, hb⟩
  | made hb _ => exact ⟨_, hb⟩

/-- Every deed keeps what stays of a host. -/
theorem Host.perform_grew (h : Host) (now : Nat) (d : Deed) : h.Grew (h.perform now d) := by
  have hrefl := Grew.refl h
  cases d with
  | nothing => exact hrefl
  | notice notices => exact ⟨rfl, hrefl.instances, hrefl.past⟩
  | beginCall number call =>
    cases hi : h.instance? number with
    | none => simpa only [perform, beginCall_none hi] using hrefl
    | some i =>
      simp only [perform, beginCall_some hi]
      exact (hrefl.modifyInstance number (f := (·.callBegun call)) fun _ => rfl).happen now _
  | endCall number call ending =>
    exact (hrefl.modifyInstance number fun i => i.make_callEnded call ending).happen now _
  | switch number enabled =>
    exact (hrefl.modifyInstance number (f := (·.setEnabled now enabled)) fun _ => rfl).happen now _
  | callGateway family id call => exact hrefl.happen now _
  | runHook hook id phase => exact hrefl.happen now _
  | build d =>
    obtain ⟨made, hb⟩ := (h.build_makes now d).built
    exact hb.grew
  | register id number =>
    cases hblank : isBlankText id with
    | true => simpa only [perform, register_blank hblank] using hrefl
    | false =>
      simp only [perform, register_not_blank hblank]
      exact ⟨rfl, hrefl.instances, (hrefl.happen now _).past⟩
  | unregister id =>
    cases hn : h.registry.get? id with
    | none =>
      simp only [perform, unregister_none hn]
      exact ⟨rfl, hrefl.instances, hrefl.past⟩
    | some number =>
      simp only [perform, unregister_some hn]
      exact ⟨rfl, hrefl.instances, (hrefl.happen now _).past⟩

/-- Only a registration and its end change the registry. -/
theorem Host.perform_registry {h : Host} {now : Nat} {d : Deed} (hd : d.SparesRegistry) :
    (h.perform now d).registry = h.registry := by
  cases d with
  | beginCall number call =>
    cases hi : h.instance? number with
    | none => simp only [perform, beginCall_none hi]
    | some i => simp only [perform, beginCall_some hi]; rfl
  | build d =>
    obtain ⟨made, hb⟩ := (h.build_makes now d).built
    exact hb.registry
  | register | unregister => exact hd.elim
  | _ => rfl

/-- A deed leaves in the history only what is its own. -/
theorem Host.perform_past (h : Host) (now : Nat) (d : Deed) :
    ∃ new, (h.perform now d).past = h.past ++ new ∧ ∀ w ∈ new, d.Leaves w := by
  -- At most one thing happens, but for a build, which may try several constructors.
  have hnone : ∃ new, h.past = h.past ++ new ∧ ∀ w ∈ new, d.Leaves w := ⟨[], by simp⟩
  have hone {w : Happening} {h' : Host} (hpast : h'.past = h.past ++ [w]) (hw : d.Leaves w) :
      ∃ new, h'.past = h.past ++ new ∧ ∀ w ∈ new, d.Leaves w := ⟨[w], hpast, by simpa using hw⟩
  cases d with
  | nothing | notice => exact hnone
  | beginCall number call =>
    cases hi : h.instance? number with
    | none => simpa only [perform, beginCall_none hi] using hnone
    | some i => exact hone (by simp [perform, beginCall_some hi]) rfl
  | endCall | switch => exact hone (by simp [perform, endCall, switch]) rfl
  | callGateway | runHook => exact hone past_happen rfl
  | build d =>
    obtain ⟨made, hb⟩ := (h.build_makes now d).built
    exact hb.past
  | register id number =>
    cases hblank : isBlankText id with
    | true => simpa only [perform, register_blank hblank] using hnone
    | false => exact hone (by simp [perform, register_not_blank hblank]; rfl) rfl
  | unregister id =>
    cases hn : h.registry.get? id with
    | none =>
      simp only [perform, unregister_none hn]
      exact hnone
    | some number => exact hone (by simp [perform, unregister_some hn]; rfl) ⟨number, rfl⟩

/-! ## Registrations -/

/-- Whether a deed leaves what is registered under an id alone. -/
def Deed.SparesId (id : String) : Deed → Prop
  | .register id' _ | .unregister id' => id' ≠ id
  | _ => True

/-- A deed that is about another id keeps what is registered under an id. -/
theorem Host.perform_sparesId {h : Host} {now : Nat} {d : Deed} {id : String}
    (hd : d.SparesId id) :
    (h.perform now d).registry.get? id = h.registry.get? id ∧
      (h.perform now d).registry.context? id = h.registry.context? id := by
  have hspared (hs : d.SparesRegistry) : (h.perform now d).registry.get? id = h.registry.get? id ∧
      (h.perform now d).registry.context? id = h.registry.context? id := by
    rw [perform_registry hs]
    exact ⟨rfl, rfl⟩
  cases d with
  | register id' number =>
    cases hblank : isBlankText id' with
    | true => simp [perform, register_blank hblank]
    | false =>
      have hid : id ≠ id' := Ne.symm hd
      simp only [perform, register_not_blank hblank]
      exact ⟨by simp [happen, notice, hid], by simp [happen, notice, hid]⟩
  | unregister id' =>
    have hid : id ≠ id' := Ne.symm hd
    simp [perform, hid]
  | _ => exact hspared trivial

/-- Every registered number is the one of an instance. -/
def Host.Linked (h : Host) : Prop :=
  ∀ {id n}, h.registry.get? id = some n → ∃ i, h.instance? n = some i

/-- What is registered is registered under the id it reports, and no id is blank. -/
structure Host.Sound (h : Host) : Prop where
  reports : ∀ {id n}, h.registry.get? id = some n → ∃ i, h.instance? n = some i ∧ i.id = id
  not_blank : ∀ {id n}, h.registry.get? id = some n → isBlankText id = false

theorem Host.Sound.linked {h : Host} (hs : h.Sound) : h.Linked := by
  intro id n hn
  obtain ⟨i, hi, -⟩ := hs.reports hn
  exact ⟨i, hi⟩

theorem Host.sound_of_empty {h : Host} (hempty : h.registry = .empty) : h.Sound := by
  have hnone : ∀ {id n}, h.registry.get? id ≠ some n := by
    simp [hempty, Registry.empty, Registry.get?]
  exact ⟨fun hn => absurd hn hnone, fun hn => absurd hn hnone⟩

/-- What may have become of a host while others worked on it: its instances are still
there, as they were made, and its registrations still mean something. -/
structure Host.Later (h h' : Host) : Prop where
  instances : ∀ {n i}, h.instance? n = some i → ∃ i', h'.instance? n = some i' ∧ i'.make = i.make
  linked : h.Linked → h'.Linked
  sound : h.Sound → h'.Sound

theorem Host.Later.refl (h : Host) : h.Later h :=
  ⟨fun hi => ⟨_, hi, rfl⟩, id, id⟩

theorem Host.Later.trans {h h' h'' : Host} (hl : h.Later h') (hl' : h'.Later h'') :
    h.Later h'' where
  instances hi := by
    obtain ⟨i', hi', hmake⟩ := hl.instances hi
    obtain ⟨i'', hi'', hmake'⟩ := hl'.instances hi'
    exact ⟨i'', hi'', hmake'.trans hmake⟩
  linked hh := hl'.linked (hl.linked hh)
  sound hh := hl'.sound (hl.sound hh)

theorem Instance.id_eq_of_make {i i' : Instance} (h : i'.make = i.make) : i'.id = i.id :=
  congrArg (·.1.id) h

/-- A registration is of an instance that is there and reports the id. -/
def Deed.Fits (h : Host) : Deed → Prop
  | .register id number => ∃ i, h.instance? number = some i ∧ i.id = id
  | _ => True

/-- Where instances stay and registrations are taken over or fit, the host is as it
may be later. -/
theorem Host.Later.of_registered {h h' : Host}
    (hi : ∀ {n i}, h.instance? n = some i → ∃ i', h'.instance? n = some i' ∧ i'.make = i.make)
    (hr : ∀ {id n}, h'.registry.get? id = some n →
      h.registry.get? id = some n ∨
        isBlankText id = false ∧ ∃ i, h.instance? n = some i ∧ i.id = id) :
    h.Later h' where
  instances := hi
  linked hl {id n} hn := by
    obtain hn | ⟨-, i, hin, -⟩ := hr hn
    · obtain ⟨i, hin⟩ := hl hn
      obtain ⟨i', hin', -⟩ := hi hin
      exact ⟨i', hin'⟩
    · obtain ⟨i', hin', -⟩ := hi hin
      exact ⟨i', hin'⟩
  sound hs := by
    -- An instance reports the id that it was made with, whatever has been done to it.
    refine ⟨fun {id n} hn => ?_, fun {id n} hn => ?_⟩
    · obtain ⟨i, hin, hid⟩ : ∃ i, h.instance? n = some i ∧ i.id = id := by
        obtain hn | ⟨-, hfit⟩ := hr hn
        · exact hs.reports hn
        · exact hfit
      obtain ⟨i', hin', hmake⟩ := hi hin
      exact ⟨i', hin', (Instance.id_eq_of_make hmake).trans hid⟩
    · obtain hn | ⟨hblank, -⟩ := hr hn
      · exact hs.not_blank hn
      · exact hblank

theorem Host.perform_later {h : Host} {now : Nat} {d : Deed} (hd : d.Fits h) :
    h.Later (h.perform now d) := by
  refine .of_registered (h.perform_grew now d).instances fun {id n} hn => ?_
  -- Only a registration brings in what was not registered before.
  have hspared (hs : d.SparesRegistry) : h.registry.get? id = some n := by
    rwa [perform_registry hs] at hn
  cases d with
  | register id' number =>
    cases hblank : isBlankText id' with
    | true =>
      simp only [perform, register_blank hblank] at hn
      exact .inl hn
    | false =>
      simp only [perform, register_not_blank hblank, happen, notice, Registry.get?_insert] at hn
      split at hn
      next heq =>
        cases hn
        exact .inr ⟨heq ▸ hblank, heq ▸ hd⟩
      next => exact .inl hn
  | unregister id' =>
    simp only [perform, unregister_registry, Registry.get?_erase] at hn
    exact .inl (by grind)
  | _ => exact .inl (hspared trivial)

/-! ## Small hosts -/

/-- The factory at an entry point whose instances all behave alike. -/
def Factory.uniform (entryPoint : String) (conduct : Conduct) (counters : Counters) : Factory :=
  ⟨entryPoint, [⟨[], fun d _ => .ok ⟨d, true, conduct, counters⟩⟩], false⟩

/-- A host with one factory, and on disk an artifact for each of some ids. -/
def Host.serving (policy : LifecyclePolicy) (f : Factory) (ids : List String) : Host :=
  let artifact (id : String) : Path := ⟨"extensions/" ++ id ++ "/" ++ id ++ ".pkg"⟩
  let files := ids.foldl (fun files id => files.write (artifact id) (.file [])) (.empty "w")
  { Host.new { Settings.default with policy := policy } files (fun _ => none) with
    factories := FactoryTable.empty.insert f }

/-- The description of an extension of the factory at an entry point. -/
def Descriptor.at (entryPoint id : String) : Descriptor :=
  { Descriptor.ofId id with entryPoint := entryPoint }

/-- A host with one extension that has a request which is never answered, so that a
drain waits until its deadline, for 50 milliseconds. -/
def Host.busy : Host :=
  .serving { LifecyclePolicy.default with drainTimeoutMs := 50 }
    (.uniform "busy" { Conduct.idle with hasStatistics := true } ⟨1, 1, 0⟩) ["a"]

/-- The busy host with an instance registered. -/
def Host.busyRegistered : Host :=
  { Host.busy with
    instances := [.ofBlueprint ⟨.at "busy" "a", true, Conduct.idle, ⟨1, 1, 0⟩⟩ none]
    registry := Registry.empty.insert "a" 0 none }

theorem Host.busyRegistered_sound : Host.busyRegistered.Sound := by
  have hget : ∀ {id n}, busyRegistered.registry.get? id = some n → id = "a" ∧ n = 0 := by
    intro id n hn
    rw [busyRegistered, Registry.get?_insert] at hn
    split at hn
    · cases hn
      exact ⟨‹_›, rfl⟩
    · cases hn
  refine ⟨fun hn => ?_, fun hn => ?_⟩
  · obtain ⟨rfl, rfl⟩ := hget hn
    exact ⟨_, rfl, rfl⟩
  · obtain ⟨rfl, rfl⟩ := hget hn
    decide

end ExtensionHost
