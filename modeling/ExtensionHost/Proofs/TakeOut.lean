import ExtensionHost.Host.Run
import ExtensionHost.Proofs.Trace

/-!
# What an update and a removal take out

An update and a removal look up what is registered, drain it, and then take out what
is registered under the id. Nothing keeps others from registering something else
there in the meantime, and then that is taken out. What an update puts in its place
it registers over anything that others have brought in since.
-/

namespace ExtensionHost

open Program

variable {α β : Type} {others : Host → Host → Prop} {t u : Nat} {h h' h₁ : Host}
variable {steps xs ys pre post : List (Step Host)} {x : Step Host} {n m k : Nat} {id : String}

/-! ## Steps of others on a registration -/

/-- A step of others that changes what is registered under an id. -/
def Step.Disturbs (x : Step Host) (id : String) : Prop :=
  x.own = false ∧ x.after.registry.get? id ≠ x.before.registry.get? id

/-- A step of others that registers an instance under an id. -/
def Step.BringsIn (x : Step Host) (id : String) (number : Nat) : Prop :=
  x.own = false ∧ x.before.registry.get? id ≠ some number ∧
    x.after.registry.get? id = some number

/-- Own steps that leave the registry alone. -/
def SparesRegistry (steps : List (Step Host)) : Prop :=
  ∀ x ∈ steps, x.own = true → x.after.registry = x.before.registry

theorem SparesRegistry.append (hxs : SparesRegistry xs) (hys : SparesRegistry ys) :
    SparesRegistry (xs ++ ys) :=
  List.forall_mem_append.mpr ⟨hxs, hys⟩

/-- Where the program leaves the registry alone, what is registered under an id stays
unless others change it. -/
theorem registered_or_disturbed {p q : HostProgram α} (hrun : p.Run others t h steps q u h')
    (hspares : SparesRegistry steps) :
    h'.registry.get? id = h.registry.get? id ∨ ∃ o ∈ steps, o.Disturbs id := by
  by_cases hex : ∃ o ∈ steps, o.Disturbs id
  · exact .inr hex
  have hsteps : ∀ o ∈ steps, o.after.registry.get? id = o.before.registry.get? id := by
    intro o ho
    cases hown : o.own with
    | true => rw [hspares o ho hown]
    -- There is no step of the others that changes the registration.
    | false => exact Classical.byContradiction fun hne => hex ⟨o, ho, hown, hne⟩
  let R (a b : Host) : Prop := b.registry.get? id = a.registry.get? id
  have hchain : R h h' := hrun.chain (fun _ => rfl) (fun hab hbc => Eq.trans hbc hab) hsteps
  exact .inl hchain

/-- Where the program leaves the registry alone, only others bring an instance in. -/
theorem brought_in {p q : HostProgram α} (hrun : p.Run others t h steps q u h')
    (hspares : SparesRegistry steps) (hnot : h.registry.get? id ≠ some k)
    (hin : h'.registry.get? id = some k) : ∃ o ∈ steps, o.BringsIn id k := by
  refine Classical.byContradiction fun hex => ?_
  have hsteps : ∀ o ∈ steps, o.before.registry.get? id ≠ some k →
      o.after.registry.get? id ≠ some k := by
    intro o ho hbefore hafter
    cases hown : o.own with
    | true => exact hbefore (hspares o ho hown ▸ hafter)
    | false => exact hex ⟨o, ho, hown, hbefore, hafter⟩
  let R (a b : Host) : Prop := a.registry.get? id ≠ some k → b.registry.get? id ≠ some k
  have hchain : R h h' := hrun.chain (fun _ ha => ha) (fun hab hbc ha => hbc (hab ha)) hsteps
  exact hchain hnot hin

/-! ## Programs that register -/

/-- The program registers only under an id, and it leaves the registry alone before. -/
structure Program.RegistersUnder (id : String) (p : HostProgram α) : Prop where
  step : ∀ {others : Host → Host → Prop} {t h pre x}, p.Reaches others t h pre x → x.own = true →
    ∀ {id' m}, .registered id' m ∈ x.adds → id' = id ∧ SparesRegistry pre

theorem Program.Works.registersUnder {p : HostProgram α} (hw : p.Works Deed.SparesRegistry) :
    p.RegistersUnder id := by
  refine ⟨fun {others t h pre x} hr hown {id' m} hmem => ?_⟩
  exact absurd hmem (Deed.registered_not_left (hw.reaches_adds hr hown) False.elim)

/-- Nothing is registered after a program that registers. -/
theorem registersUnder_bind_works {p : HostProgram α} {k : α → HostProgram β}
    (hp : p.RegistersUnder id) (hk : ∀ a, (k a).Works Deed.SparesRegistry) :
    (p.bind k).RegistersUnder id := by
  refine ⟨fun {others t h pre x} hr hown {id' m} hmem => ?_⟩
  obtain hr | ⟨a, xs, pre', t₁, h₁, rfl, -, hr⟩ := hr.of_bind
  · exact hp.step hr hown hmem
  · exact absurd hmem (Deed.registered_not_left ((hk a).reaches_adds hr hown) False.elim)

/-- A program that registers may come after one that leaves the registry alone. -/
theorem works_bind_registersUnder {p : HostProgram α} {k : α → HostProgram β}
    (hw : p.Works Deed.SparesRegistry) (hk : ∀ a, (k a).RegistersUnder id) :
    (p.bind k).RegistersUnder id := by
  refine ⟨fun {others t h pre x} hr hown {id' m} hmem => ?_⟩
  obtain hr | ⟨a, xs, pre', t₁, h₁, rfl, hrun, hr⟩ := hr.of_bind
  · exact absurd hmem (Deed.registered_not_left (hw.reaches_adds hr hown) False.elim)
  · obtain ⟨hid, hpre⟩ := (hk a).step hr hown hmem
    exact ⟨hid, .append (hw.own_registry (fun _ hd => hd) hrun) hpre⟩

theorem register_registersUnder (id : String) (n : Nat) : (register id n).RegistersUnder id := by
  have hw : (register id n).Works (· = .register id n) := register_works rfl
  refine ⟨fun {others t h pre x} hr hown {id' m} hmem => ?_⟩
  obtain ⟨d, hd, hleaves⟩ := hw.reaches_adds hr hown _ hmem
  obtain rfl := Deed.leaves_registered.mp hleaves
  cases hd
  obtain ⟨rfl, -⟩ | ⟨pre', -, q, u, h', hrun⟩ := hr.of_act
  · exact ⟨rfl, fun _ hx => absurd hx List.not_mem_nil⟩
  · obtain ⟨hnil, -⟩ := hrun.of_done
    simp at hnil

theorem registerAndStart_registersUnder (id : String) (n : Nat) :
    (registerAndStart id n).RegistersUnder id := by
  refine registersUnder_bind_works (register_registersUnder id n) fun r => ?_
  cases r with
  | error e => exact works_done _
  | ok _ => exact (startRegistered_works id).mono fun _ => Deed.IsCall.sparesRegistry

theorem enable_registersUnder (d : Descriptor) : (enable d).RegistersUnder d.id := by
  unfold enable
  split
  · exact (works_done _).registersUnder
  · refine works_bind_registersUnder (build_works trivial) fun r => ?_
    cases r with
    | error e => exact (works_done _).registersUnder
    | ok n =>
      exact registersUnder_bind_works (registerAndStart_registersUnder d.id n) fun _ => works_done _

theorem rollBack_registersUnder {old : Descriptor} (hid : old.id = id) (e : HostError) :
    (rollBack id old e).RegistersUnder id := by
  refine works_bind_registersUnder (noteAll_works _) fun _ => ?_
  refine registersUnder_bind_works (hid ▸ enable_registersUnder old) fun r => ?_
  refine works_bind (noteFailure_works _ r) fun _ => works_bind ?_ fun _ => works_done _
  exact runHooks_works fun _ => trivial

theorem replaceWith_registersUnder {d old : Descriptor} (hid : old.id = d.id) :
    (replaceWith d old).RegistersUnder d.id := by
  refine works_bind_registersUnder (build_works trivial) fun r => ?_
  cases r with
  | error e => exact rollBack_registersUnder hid e
  | ok n =>
    refine registersUnder_bind_works (registerAndStart_registersUnder d.id n) fun r => ?_
    cases r <;> exact works_bind (runHooks_works fun _ => trivial) fun _ => works_done _

/-! ## Programs that take out -/

/-- What a step takes out or registers, after steps that started in a state. Only what
is registered under the id is taken out, and it has been registered there all along
unless others have disturbed it. What is registered takes the place of nothing but
what others have brought in. -/
structure TakesOut (id : String) (h : Host) (pre : List (Step Host)) (x : Step Host) : Prop where
  unregistered : ∀ {id' k}, .unregistered id' k ∈ x.adds →
    id' = id ∧ x.before.registry.get? id = some k ∧
      (h.registry.get? id = some k ∨ ∃ o ∈ pre, o.Disturbs id)
  registered : ∀ {id' m}, .registered id' m ∈ x.adds →
    id' = id ∧ ∀ k, x.before.registry.get? id = some k → ∃ o ∈ pre, o.BringsIn id k

/-- The steps before may begin earlier, as far as the registration is not disturbed. -/
theorem TakesOut.after (ht : TakesOut id h₁ ys x)
    (hreg : h₁.registry.get? id = h.registry.get? id ∨ ∃ o ∈ xs, o.Disturbs id) :
    TakesOut id h (xs ++ ys) x := by
  refine ⟨fun {id' k} hmem => ?_, fun {id' m} hmem => ?_⟩
  · obtain ⟨hid, hbefore, hk⟩ := ht.unregistered hmem
    refine ⟨hid, hbefore, ?_⟩
    obtain hk | ⟨o, ho, hdisturbs⟩ := hk
    · obtain heq | ⟨o, ho, hdisturbs⟩ := hreg
      · exact .inl (heq ▸ hk)
      · exact .inr ⟨o, List.mem_append_left _ ho, hdisturbs⟩
    · exact .inr ⟨o, List.mem_append_right _ ho, hdisturbs⟩
  · obtain ⟨hid, hbrought⟩ := ht.registered hmem
    refine ⟨hid, fun k hk => ?_⟩
    obtain ⟨o, ho, hin⟩ := hbrought k hk
    exact ⟨o, List.mem_append_right _ ho, hin⟩

/-- In every run of the program from a state in which `start` holds, the own steps take
out only what `TakesOut` allows. -/
structure Program.TakesOutUnder (id : String) (start : Host → Prop) (p : HostProgram α) :
    Prop where
  step : ∀ {others : Host → Host → Prop} {t h pre x}, start h → p.Reaches others t h pre x →
    x.own = true → TakesOut id h pre x

theorem Program.Works.takesOutUnder {p : HostProgram α} (hw : p.Works Deed.SparesRegistry)
    (start : Host → Prop) : p.TakesOutUnder id start := by
  refine ⟨fun {others t h pre x} _ hr hown => ⟨fun {id' k} hmem => ?_, fun {id' m} hmem => ?_⟩⟩
  · exact absurd hmem (Deed.unregistered_not_left (hw.reaches_adds hr hown) False.elim)
  · exact absurd hmem (Deed.registered_not_left (hw.reaches_adds hr hown) False.elim)

/-- A program that takes out may come after one that leaves the registry alone. -/
theorem works_bind_takesOutUnder {p : HostProgram α} {k : α → HostProgram β}
    (hw : p.Works Deed.SparesRegistry) (hk : ∀ a, (k a).TakesOutUnder id fun _ => True) :
    (p.bind k).TakesOutUnder id fun _ => True := by
  refine ⟨fun {others t h pre x} _ hr hown => ?_⟩
  obtain hr | ⟨a, xs, pre', t₁, h₁, rfl, hrun, hr⟩ := hr.of_bind
  · exact (hw.takesOutUnder fun _ => True).step trivial hr hown
  · have hreg : h₁.registry.get? id = h.registry.get? id ∨ ∃ o ∈ xs, o.Disturbs id :=
      registered_or_disturbed hrun (hw.own_registry (fun _ hd => hd) hrun)
    exact ((hk a).step trivial hr hown).after hreg

/-- From a state in which nothing is registered under the id, a program that registers
takes the place only of what others bring in. -/
theorem Program.RegistersUnder.takesOutUnder {allowed : Deed → Prop} {p : HostProgram α}
    (hp : p.RegistersUnder id) (hw : p.Works allowed) (hnone : ∀ id, ¬ allowed (.unregister id)) :
    p.TakesOutUnder id fun h => h.registry.get? id = none := by
  refine ⟨fun {others t h pre x} hstart hr hown => ⟨fun {id' k} hmem => ?_, fun {id' m} hmem => ?_⟩⟩
  · exact absurd hmem (Deed.unregistered_not_left (hw.reaches_adds hr hown) (hnone id'))
  · obtain ⟨hid, hpre⟩ := hp.step hr hown hmem
    obtain ⟨q, u, hrun⟩ := hr.run
    exact ⟨hid, fun k hk => brought_in hrun hpre (by simp [hstart]) hk⟩

theorem unregister_adds (t : Nat) (h : Host) (id : String) :
    Step.adds ⟨true, t, h, (h.unregister t id).2⟩ =
      (h.registry.get? id).toList.map (.unregistered id) := by
  refine Step.adds_eq ?_
  cases hn : h.registry.get? id with
  | none =>
    rw [Host.unregister_none hn]
    exact (List.append_nil _).symm
  | some n =>
    rw [Host.unregister_some hn]
    exact Host.past_happen

/-- Taking out, and then perhaps registering. -/
theorem unregister_bind_takesOutUnder {allowed : Deed → Prop} {k : Option Nat → HostProgram α}
    (hk : ∀ found, (k found).RegistersUnder id) (hw : ∀ found, (k found).Works allowed)
    (hnone : ∀ id, ¬ allowed (.unregister id)) :
    ((unregister id).bind k).TakesOutUnder id fun _ => True := by
  refine ⟨fun {others t h pre x} _ hr hown => ?_⟩
  obtain ⟨rfl, rfl⟩ | ⟨pre', rfl, hrest⟩ := hr.of_act
  · have hadds := unregister_adds t h id
    refine ⟨fun {id' k} hmem => ?_, fun {id' m} hmem => ?_⟩
    · obtain ⟨n, hn, heq⟩ := List.mem_map.mp (hadds ▸ hmem)
      cases heq
      exact ⟨rfl, Option.mem_toList.mp hn, .inl (Option.mem_toList.mp hn)⟩
    · obtain ⟨n, -, heq⟩ := List.mem_map.mp (hadds ▸ hmem)
      cases heq
  · -- Nothing is registered now, so whatever is later met there others have brought in.
    have hstart : (h.unregister t id).2.registry.get? id = none := by simp
    have hstep := ((hk _).takesOutUnder (hw _) hnone).step hstart hrest hown
    refine ⟨fun {id' k} hmem => ?_, fun {id' m} hmem => ?_⟩
    · exact absurd hmem (Deed.unregistered_not_left ((hw _).reaches_adds hrest hown) (hnone id'))
    · obtain ⟨hid, hbrought⟩ := hstep.registered hmem
      refine ⟨hid, fun k hk => ?_⟩
      obtain ⟨o, ho, hin⟩ := hbrought k hk
      exact ⟨o, List.mem_cons_of_mem _ ho, hin⟩

/-! ## Updates and removals -/

theorem replaceTaken_registersUnder {d old : Descriptor} (hid : old.id = d.id)
    (n settleDelayMs : Nat) : (replaceTaken d n old settleDelayMs).RegistersUnder d.id := by
  refine works_bind_registersUnder (callInstance_works trivial fun _ => trivial) fun r => ?_
  refine works_bind_registersUnder (noteFailure_works _ r) fun _ => ?_
  exact works_bind_registersUnder (works_sleep _) fun _ => replaceWith_registersUnder hid

theorem updateRegistered_takesOutUnder {d : Descriptor} {old : Instance} (hid : old.id = d.id)
    (n : Nat) : (updateRegistered d n old).TakesOutUnder d.id fun _ => True := by
  refine works_bind_takesOutUnder (noteAll_works _) fun _ => ?_
  refine works_bind_takesOutUnder (works_ask _) fun policy => ?_
  refine works_bind_takesOutUnder
    ((drain_works n _).mono fun _ => Deed.IsDraining.sparesRegistry) fun r => ?_
  cases r with
  | error e =>
    have hhooks : ((runHooks d.id .updateFailed).bind fun _ =>
        (done (.error (.lifecycle (.updateFailed d.id e.message))) :
          HostProgram (Except HostError Unit))).Works Deed.SparesRegistry :=
      works_bind (runHooks_works fun _ => trivial) fun _ => works_done _
    exact hhooks.takesOutUnder _
  | ok _ =>
    exact unregister_bind_takesOutUnder (k := fun _ => replaceTaken d n old.descriptor _)
      (fun _ => replaceTaken_registersUnder hid n _) (fun _ => replaceTaken_works d n _ _)
      fun id => by simp [Deed.IsReplacing, Deed.IsCall, Deed.IsEnabling, Deed.IsHookRun]

theorem remove_takesOutUnder (d : Descriptor) :
    (remove d).TakesOutUnder d.id fun _ => True := by
  refine works_bind_takesOutUnder (works_ask _) fun found => ?_
  cases found with
  | none => exact (works_done _).takesOutUnder _
  | some n =>
    refine works_bind_takesOutUnder (works_ask _) fun timeoutMs => ?_
    refine works_bind_takesOutUnder
      ((drain_works n _).mono fun _ => Deed.IsDraining.sparesRegistry) fun r => ?_
    refine works_bind_takesOutUnder (noteFailure_works _ r) fun _ => ?_
    refine unregister_bind_takesOutUnder (k := fun _ => removeTaken d n) (fun _ => ?_)
      (fun _ => removeTaken_works d n) ?_
    · exact ((removeTaken_works d n).mono fun _ => Deed.IsRemoving.sparesRegistry).registersUnder
    · simp [Deed.IsRemoving, Deed.IsCall, Deed.IsHookRun]

/-! ## What has been drained -/

/-- An instance that has been made quiet was disabled on the way. -/
theorem quiet_done_switched {n timeoutMs : Nat} {i : Instance} {a : Unit}
    (hrun : (quiet i n timeoutMs).Run others t h steps (done a) u h') :
    .switched n false ∈ ownHappenings steps := by
  -- It is disabled between its first shutdown hook and all the rest.
  obtain ⟨b, zs, ws, t₂, h₂, rfl, -, hswitch⟩ := hrun.of_bind_done
  obtain ⟨-, hdone, -⟩ | ⟨rest', rfl, -⟩ := hswitch.of_act
  · cases hdone
  have hadds : Step.adds ⟨true, t₂, h₂, h₂.switch t₂ n false⟩ = [.switched n false] :=
    Step.adds_eq (by simp [Host.switch])
  refine mem_ownHappenings.mpr ⟨⟨true, t₂, h₂, h₂.switch t₂ n false⟩, by simp, rfl, ?_⟩
  simp [hadds]

/-- A drain that has come to its end has disabled its instance. -/
theorem drain_done_switched {n timeoutMs : Nat} {i : Instance} {r : Except LifecycleError Unit}
    (hrun : (drain n timeoutMs).Run others t h steps (done r) u h')
    (hi : h.instance? n = some i) : .switched n false ∈ ownHappenings steps := by
  obtain ⟨-, hdone, -⟩ | ⟨rest, rfl, hdrain⟩ := hrun.of_act
  · cases hdone
  replace hdrain : (drainInstance i n timeoutMs).Run others t h rest (done r) u h' := by
    simpa only [hi, pure_bind] using hdrain
  rw [drainInstance_eq] at hdrain
  obtain ⟨a, xs, ys, t₁, h₁, rfl, hquiet, -⟩ := hdrain.of_bind_done
  obtain ⟨x, hx, hown, hadds⟩ := mem_ownHappenings.mp (quiet_done_switched hquiet)
  exact mem_ownHappenings.mpr ⟨x, by simp [hx], hown, hadds⟩

/-- In the steps after a state a drain of the instance has come to its end, and the
instance was disabled in it. Nothing was registered or changed before it began. -/
def HasDrained (others : Host → Host → Prop) (n : Nat) (h : Host) (steps : List (Step Host)) :
    Prop :=
  ∃ before drained after timeoutMs r t h₁ u h', steps = before ++ drained ++ after ∧
    h₁.registry = h.registry ∧ h₁.instances = h.instances ∧
    (drain n timeoutMs).Run others t h₁ drained (done r) u h' ∧
    .switched n false ∈ ownHappenings drained

theorem HasDrained.cons (hd : HasDrained others n h₁ xs) (hr : h₁.registry = h.registry)
    (hi : h₁.instances = h.instances) : HasDrained others n h (x :: xs) := by
  obtain ⟨before, drained, after, timeoutMs, r, t, h₂, u, h', rfl, hr', hi', hrun⟩ := hd
  exact ⟨x :: before, drained, after, timeoutMs, r, t, h₂, u, h', rfl, hr'.trans hr,
    hi'.trans hi, hrun⟩

/-- The program leaves nothing in the history before it takes something out. -/
def Program.TakesOutFirst (p : HostProgram α) : Prop :=
  ∀ {others : Host → Host → Prop} {t h pre x}, p.Reaches others t h pre x → x.own = true →
    ∀ {id k}, .unregistered id k ∈ x.adds → ownHappenings pre = []

theorem Program.Works.takesOutFirst {allowed : Deed → Prop} {p : HostProgram α}
    (hw : p.Works allowed) (hnone : ∀ id, ¬ allowed (.unregister id)) : p.TakesOutFirst := by
  intro others t h pre x hr hown id k hmem
  exact absurd hmem (Deed.unregistered_not_left (hw.reaches_adds hr hown) (hnone id))

theorem unregister_bind_takesOutFirst {allowed : Deed → Prop} {k : Option Nat → HostProgram α}
    (hw : ∀ found, (k found).Works allowed) (hnone : ∀ id, ¬ allowed (.unregister id)) :
    ((unregister id).bind k).TakesOutFirst := by
  intro others t h pre x hr hown id' m hmem
  obtain ⟨rfl, -⟩ | ⟨pre', rfl, hrest⟩ := hr.of_act
  · rfl
  · exact absurd hmem (Deed.unregistered_not_left ((hw _).reaches_adds hrest hown) (hnone id'))

/-- Taking note may come before taking out. -/
theorem quiet_bind_takesOutFirst {p : HostProgram α} {k : α → HostProgram β}
    (hw : p.Works fun _ => False) (hk : ∀ a, (k a).TakesOutFirst) :
    (p.bind k).TakesOutFirst := by
  intro others t h pre x hr hown id m hmem
  obtain hr | ⟨a, xs, pre', t₁, h₁, rfl, hrun, hr⟩ := hr.of_bind
  · exact absurd hmem (Deed.unregistered_not_left (hw.reaches_adds hr hown) False.elim)
  · rw [ownHappenings_append, hw.ownHappenings_eq (fun _ _ => False.elim) hrun,
      hk a hr hown hmem, List.append_nil]

/-- What a step has to do with a drained instance: it takes something out only after
that instance has been drained, when nothing else has been done, and it disables no
other one. -/
structure DrainsFirst (others : Host → Host → Prop) (n : Nat) (h : Host)
    (pre : List (Step Host)) (x : Step Host) : Prop where
  drained : ∀ {id k}, .unregistered id k ∈ x.adds → HasDrained others n h pre
  only : ∀ {id k}, .unregistered id k ∈ x.adds →
    ∀ w ∈ ownHappenings pre, ∃ d : Deed, d.IsDraining n ∧ d.Leaves w
  switched : ∀ {m enabled}, .switched m enabled ∈ x.adds → m = n

/-- A step that asks or takes note may come before a drain. -/
theorem DrainsFirst.of_idle_act {f : Nat → Host → β × Host} {next : β → HostProgram α}
    (hr : (act f next).Reaches others t h pre x) (hpast : (f t h).2.past = h.past)
    (hreg : (f t h).2.registry = h.registry) (hinst : (f t h).2.instances = h.instances)
    (hnext : ∀ pre', (next (f t h).1).Reaches others t (f t h).2 pre' x →
      DrainsFirst others n (f t h).2 pre' x) : DrainsFirst others n h pre x := by
  have hadds : Step.adds ⟨true, t, h, (f t h).2⟩ = [] := Step.adds_eq (by simp [hpast])
  obtain ⟨rfl, rfl⟩ | ⟨pre', rfl, hr'⟩ := hr.of_act
  · exact ⟨by simp [hadds], by simp [hadds], by simp [hadds]⟩
  · have hx := hnext pre' hr'
    refine ⟨fun hmem => (hx.drained hmem).cons hreg hinst, fun hmem => ?_, hx.switched⟩
    rw [ownHappenings_cons rfl, hadds]
    exact hx.only hmem

/-- A step of a drain, or one after it. -/
theorem drain_bind_drainsFirst {timeoutMs : Nat} {i : Instance}
    {k : Except LifecycleError Unit → HostProgram α} (allowed : Deed → Prop)
    (hr : ((drain n timeoutMs).bind k).Reaches others t h pre x) (hown : x.own = true)
    (hi : h.instance? n = some i) (hk : ∀ r, (k r).Works allowed)
    (hnone : ∀ m enabled, ¬ allowed (.switch m enabled)) (hfirst : ∀ r, (k r).TakesOutFirst) :
    DrainsFirst others n h pre x := by
  have hworks := drain_works n timeoutMs
  -- A drain takes nothing out; after it the whole drain lies before the step.
  obtain hr | ⟨r, xs, pre', t₁, h₁, rfl, hdrain, hrest⟩ := hr.of_bind
  · have hspares {id k} : .unregistered id k ∉ x.adds :=
      Deed.unregistered_not_left (hworks.reaches_adds hr hown) Deed.IsDraining.sparesRegistry
    refine ⟨fun hmem => absurd hmem hspares, fun hmem => absurd hmem hspares, fun hmem => ?_⟩
    obtain ⟨d, hd, hleaves⟩ := hworks.reaches_adds hr hown _ hmem
    obtain rfl := Deed.leaves_switched.mp hleaves
    exact hd.elim (·.1) False.elim
  · refine ⟨fun _ => ?_, fun hmem w hw => ?_, fun {m enabled} hmem => ?_⟩
    · exact ⟨[], xs, pre', timeoutMs, r, t, h, t₁, h₁, rfl, rfl, rfl, hdrain,
        drain_done_switched hdrain hi⟩
    · rw [ownHappenings_append, hfirst r hrest hown hmem, List.append_nil] at hw
      exact hworks.left hdrain w hw
    · exact absurd hmem
        (Deed.switched_not_left ((hk r).reaches_adds hrest hown) (hnone m enabled))

theorem updateRegistered_drainsFirst {d : Descriptor} {old : Instance}
    (hr : (updateRegistered d n old).Reaches others t h pre x) (hown : x.own = true)
    (hi : h.instance? n = some old) : DrainsFirst others n h pre x := by
  have hhooks (e : LifecycleError) : ((runHooks d.id .updateFailed).bind fun _ =>
      (done (.error (.lifecycle (.updateFailed d.id e.message))) :
        HostProgram (Except HostError Unit))).Works Deed.IsHookRun :=
    works_bind (runHooks_works fun _ => trivial) fun _ => works_done _
  -- The versions are compared and the policy is read, and then the drain begins.
  refine .of_idle_act hr rfl rfl rfl fun pre₁ hr₁ => ?_
  refine .of_idle_act hr₁ rfl rfl rfl fun pre₂ hr₂ => ?_
  refine drain_bind_drainsFirst (fun x => x = .unregister d.id ∨ x.IsReplacing d old.descriptor n)
    hr₂ hown hi (fun r => ?_) (fun m enabled => ?_) fun r => ?_
  · cases r with
    | error e => exact (hhooks e).mono fun _ hx => .inr (.inr (.inr (.inr hx)))
    | ok _ =>
      exact works_bind (unregister_works (.inl rfl)) fun _ =>
        (replaceTaken_works d n old.descriptor _).mono fun _ => .inr
  · simp [Deed.IsReplacing, Deed.IsCall, Deed.IsEnabling, Deed.IsHookRun]
  · cases r with
    | error e => exact (hhooks e).takesOutFirst fun _ => id
    | ok _ =>
      refine unregister_bind_takesOutFirst (fun _ => replaceTaken_works d n old.descriptor _) ?_
      simp [Deed.IsReplacing, Deed.IsCall, Deed.IsEnabling, Deed.IsHookRun]

theorem remove_drainsFirst {d : Descriptor} {i : Instance}
    (hr : (remove d).Reaches others t h pre x) (hown : x.own = true)
    (hn : h.registry.get? d.id = some n) (hi : h.instance? n = some i) :
    DrainsFirst others n h pre x := by
  refine .of_idle_act hr rfl rfl rfl fun pre₁ hr₁ => ?_
  simp only [hn] at hr₁
  refine .of_idle_act hr₁ rfl rfl rfl fun pre₂ hr₂ => ?_
  refine drain_bind_drainsFirst (fun x => x = .unregister d.id ∨ x.IsRemoving n)
    hr₂ hown hi (fun r => ?_) (fun m enabled => ?_) fun r => ?_
  · refine works_bind (noteFailure_works _ r) fun _ =>
      works_bind (unregister_works (.inl rfl)) fun _ => ?_
    exact (removeTaken_works d n).mono fun _ => .inr
  · simp [Deed.IsRemoving, Deed.IsCall, Deed.IsHookRun]
  · refine quiet_bind_takesOutFirst (noteFailure_works _ r) fun _ => ?_
    refine unregister_bind_takesOutFirst (fun _ => removeTaken_works d n) ?_
    simp [Deed.IsRemoving, Deed.IsCall, Deed.IsHookRun]

/-! ## The whole change -/

/-- What a step of an update or a removal takes out, counted from the look-up at its
start: what has been registered there since, if others have not disturbed it, and that
only after what was found has been drained and nothing else has been done. Where
nothing was found, nothing is taken out. -/
structure TakesOutFound (others : Host → Host → Prop) (id : String) (h : Host)
    (pre : List (Step Host)) (x : Step Host) : Prop where
  takesOut : TakesOut id h pre x
  drained : ∀ {id' k}, .unregistered id' k ∈ x.adds →
    ∃ n, h.registry.get? id = some n ∧ HasDrained others n h pre ∧
      ∀ w ∈ ownHappenings pre, ∃ d : Deed, d.IsDraining n ∧ d.Leaves w
  switched : ∀ {m enabled}, .switched m enabled ∈ x.adds → h.registry.get? id = some m

theorem DrainsFirst.takesOutFound (hd : DrainsFirst others n h pre x)
    (ht : TakesOut id h pre x) (hn : h.registry.get? id = some n) :
    TakesOutFound others id h pre x :=
  ⟨ht, fun hmem => ⟨n, hn, hd.drained hmem, hd.only hmem⟩, fun hmem => hd.switched hmem ▸ hn⟩

/-- The look-up takes nothing out, and what comes of it does as the steps after it do. -/
theorem TakesOutFound.of_ask {f : Host → β} {k : β → HostProgram α}
    (hr : ((ask f).bind k).Reaches others t h pre x)
    (hk : ∀ pre', (k (f h)).Reaches others t h pre' x → TakesOutFound others id h pre' x) :
    TakesOutFound others id h pre x := by
  have hadds : Step.adds ⟨true, t, h, h⟩ = [] := Step.adds_eq (List.append_nil _).symm
  obtain ⟨rfl, rfl⟩ | ⟨pre', rfl, hr'⟩ := hr.of_act
  · exact ⟨⟨by simp [hadds], by simp [hadds]⟩, by simp [hadds], by simp [hadds]⟩
  · have hx := hk pre' hr'
    have htakes : TakesOut id h ([⟨true, t, h, h⟩] ++ pre') x := hx.takesOut.after (.inl rfl)
    refine ⟨htakes, fun hmem => ?_, hx.switched⟩
    obtain ⟨n, hn, hdrained, honly⟩ := hx.drained hmem
    refine ⟨n, hn, hdrained.cons rfl rfl, ?_⟩
    rw [ownHappenings_cons rfl, hadds]
    exact honly

theorem enable_takesOutFound {d : Descriptor} (hr : (enable d).Reaches others t h pre x)
    (hown : x.own = true) (hnone : h.registry.get? d.id = none) :
    TakesOutFound others d.id h pre x := by
  have hkeeps : ∀ id, ¬ Deed.IsEnabling d (.unregister id) := fun _ => id
  refine ⟨?_, fun {id' k} hmem => ?_, fun {m enabled} hmem => ?_⟩
  · exact ((enable_registersUnder d).takesOutUnder (enable_works d) hkeeps).step hnone hr hown
  · exact absurd hmem
      (Deed.unregistered_not_left ((enable_works d).reaches_adds hr hown) False.elim)
  · exact absurd hmem (Deed.switched_not_left ((enable_works d).reaches_adds hr hown) False.elim)

theorem update_takesOutFound {d : Descriptor} (hr : (update d).Reaches others t h pre x)
    (hown : x.own = true) (hs : h.Sound) : TakesOutFound others d.id h pre x := by
  refine .of_ask hr fun pre' hr' => ?_
  cases hn : h.registry.get? d.id with
  | none =>
    -- Where nothing is registered, an update is an enabling.
    simp only [hn, Option.bind_none] at hr'
    exact enable_takesOutFound hr' hown hn
  | some n =>
    obtain ⟨old, hi, hid⟩ := hs.reports hn
    simp only [hn, Option.bind_some, hi, Option.map_some] at hr'
    have ht := (updateRegistered_takesOutUnder hid n).step trivial hr' hown
    exact (updateRegistered_drainsFirst hr' hown hi).takesOutFound ht hn

theorem remove_takesOutFound {d : Descriptor} (hr : (remove d).Reaches others t h pre x)
    (hown : x.own = true) (hs : h.Sound) : TakesOutFound others d.id h pre x := by
  have ht := (remove_takesOutUnder d).step trivial hr hown
  cases hn : h.registry.get? d.id with
  | none =>
    refine .of_ask hr fun pre' hr' => ?_
    simp only [hn] at hr'
    obtain ⟨q, u, h', hrun⟩ := hr'
    obtain ⟨hnil, -⟩ := hrun.of_done
    simp at hnil
  | some n =>
    obtain ⟨i, hi, -⟩ := hs.reports hn
    exact (remove_drainsFirst hr hown hn hi).takesOutFound ht hn

theorem handle_reaches_takesOutFound {e : Event} (hr : (handle e).Reaches others t h pre x)
    (hown : x.own = true) (hs : h.Sound) (he : e.change = .update ∨ e.change = .remove) :
    TakesOutFound others e.id h pre x := by
  obtain he | he := he
  · simp only [handle, he] at hr
    exact update_takesOutFound hr hown hs
  · simp only [handle, he] at hr
    exact remove_takesOutFound hr hown hs

/-- Whatever others do meanwhile, an update or a removal takes out only what it has
found and drained, unless others have disturbed that registration since the look-up,
and an update registers over nothing but what others have brought in since. -/
theorem handle_takesOutFound {e : Event} {q : HostProgram (Except HostError Unit)}
    (hrun : (handle e).Run others t h steps q u h') (hs : h.Sound)
    (he : e.change = .update ∨ e.change = .remove) (hsteps : steps = pre ++ x :: post)
    (hown : x.own = true) : TakesOutFound others e.id h pre x :=
  handle_reaches_takesOutFound (hrun.reaches hsteps) hown hs he

/-- Nobody else acts, so a removal takes out what it has found and drained. -/
theorem remove_of_registered_takesOutFound :
    ∃ pre x post, ((handle (.of .remove (.at "busy" "a"))).alone 7 .busyRegistered).1 =
        pre ++ x :: post ∧ .unregistered "a" 0 ∈ x.adds ∧
      TakesOutFound Undisturbed "a" .busyRegistered pre x := by
  let run := (handle (.of .remove (.at "busy" "a"))).alone 7 .busyRegistered
  have hmem : .unregistered "a" 0 ∈ ownHappenings run.1 := by decide +kernel
  obtain ⟨x, hx, hown, hadds⟩ := mem_ownHappenings.mp hmem
  obtain ⟨pre, post, hsteps⟩ := List.append_of_mem hx
  exact ⟨pre, x, post, hsteps, hadds, handle_takesOutFound (alone_run _ _ _)
    Host.busyRegistered_sound (.inr rfl) hsteps hown⟩

/-- The busy extension is changed in a task that misses its deadline and goes on, and it
is enabled again meanwhile. -/
private def enableMeanwhile (change : Change) (timeoutMs : Nat) : HostProgram Unit := do
  let _ ← enable (.at "busy" "a")
  let _ ← handleInTime (.of change (.at "busy" "a")) timeoutMs
  let _ ← enable (.at "busy" "a")
  Program.sleep 500

/-- The host after that. -/
private def enabledMeanwhile (change : Change) (timeoutMs : Nat) : Host :=
  (HostMachine.run (Machine.start .busy) (enableMeanwhile change timeoutMs)).2.state

/-- A removal that still drains the first instance takes out the second one, which it
has not drained. An update that waits for its delay to pass registers over it. -/
theorem change_meets_another_instance :
    (enabledMeanwhile .remove 10).past = [
        .constructed "a" "0.0.0" ⟨0, []⟩ false, .registered "a" 0,
        .called 0 .start, .ended 0 .start .succeeded,
        .switched 0 false,
        .constructed "a" "0.0.0" ⟨0, []⟩ false, .registered "a" 1,
        .called 1 .start, .ended 1 .start .succeeded,
        .called 1 .stop, .ended 1 .stop .succeeded,
        .unregistered "a" 1,
        .called 0 (.cleanup true), .ended 0 (.cleanup true) .succeeded] ∧
      (enabledMeanwhile .update 60).past = [
        .constructed "a" "0.0.0" ⟨0, []⟩ false, .registered "a" 0,
        .called 0 .start, .ended 0 .start .succeeded,
        .switched 0 false,
        .called 0 .stop, .ended 0 .stop .succeeded,
        .unregistered "a" 0,
        .called 0 (.cleanup false), .ended 0 (.cleanup false) .succeeded,
        .constructed "a" "0.0.0" ⟨0, []⟩ false, .registered "a" 1,
        .called 1 .start, .ended 1 .start .succeeded,
        .constructed "a" "0.0.0" ⟨0, []⟩ false, .registered "a" 2,
        .called 2 .start, .ended 2 .start .succeeded] := by
  decide +kernel

end ExtensionHost
