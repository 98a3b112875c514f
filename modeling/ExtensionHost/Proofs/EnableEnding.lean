import ExtensionHost.Proofs.Enabling

/-!
# How an enabling ends

All that can fail before a new instance is started fails before the registry is changed:
then no more has happened than that constructors were invoked. From the registration on,
whatever comes of the start, the new instance is what is registered under its id. Other ids
and other instances are left alone either way.
-/

namespace ExtensionHost

open Program

variable {t u n : Nat} {h h' : Host} {d : Descriptor} {i : Instance} {id : String}

/-! ## Failing to build -/

/-- An error of what is on disk, or of what constructors made. -/
def HostError.IsOfBuild : HostError → Prop
  | .load _ | .instantiation _ => True
  | _ => False

theorem Host.checkIdentity_error {e : HostError} (hc : h.checkIdentity id n = .error e) :
    e.IsOfBuild := by
  unfold checkIdentity at hc
  split at hc
  next =>
    split at hc
    · cases hc
    · cases hc
      trivial
  next => cases hc

theorem Host.constructIn_error {context : Context} {e : HostError}
    (hc : (h.constructIn t context d).1 = .ok (.error e)) : e.IsOfBuild := by
  unfold constructIn at hc
  split at hc
  next =>
    cases hc
    trivial
  next =>
    simp only [construct] at hc
    split at hc
    · cases hc
    · cases hc
      trivial
    · cases hc

/-- A build fails for what is on disk, or for what constructors made. -/
theorem Host.build_error {e : HostError} (hb : (h.build t d).1 = .ok (.error e)) :
    e.IsOfBuild := by
  unfold build at hb
  split at hb
  · cases hb
    trivial
  split at hb
  · cases hb
    trivial
  · split at hb
    next => exact checkIdentity_error (Except.ok.inj hb)
    next unmade h₁ _ hconstruct =>
      exact constructIn_error ((congrArg (·.1) hconstruct).trans hb)

/-! ## What is left alone -/

/-- Whether something happens to bring an instance in under an id: a constructor is invoked
for the id, the instance is registered under it, or it is started. -/
def Happening.IsBringing (id : String) (n : Nat) : Happening → Prop
  | .constructed id' _ _ _ => id' = id
  | .registered id' m => id' = id ∧ m = n
  | .called m call | .ended m call _ => m = n ∧ call = .start
  | _ => False

/-- Whether a constructor is invoked for an id. -/
def Happening.IsConstruction (id : String) : Happening → Prop
  | .constructed id' _ _ _ => id' = id
  | _ => False

/-- Whatever is registered under other ids still is, with its context, and the instances of
before are as they were. All that has happened was to bring in the next new instance. -/
structure Host.AddsUnder (h : Host) (id : String) (h' : Host) : Prop where
  get? : ∀ k, k ≠ id → h'.registry.get? k = h.registry.get? k
  context? : ∀ k, k ≠ id → h'.registry.context? k = h.registry.context? k
  instances : ∀ n i, h.instance? n = some i → h'.instance? n = some i
  past : ∃ new, h'.past = h.past ++ new ∧ ∀ w ∈ new, w.IsBringing id h.nextInstance

/-- The registry is as it was, and no more has happened than that constructors were invoked. -/
structure Host.OnlyConstructs (h : Host) (id : String) (h' : Host) : Prop where
  registry : h'.registry = h.registry
  past : ∃ new, h'.past = h.past ++ new ∧ ∀ w ∈ new, w.IsConstruction id

/-- The next new instance was built for the description. It is what is registered under its
id now, with its context, and the registry is else as it was; start was called on it and has
ended so. -/
structure Host.Maps (h : Host) (t : Nat) (d : Descriptor) (ending : Ending) (h' : Host) :
    Prop where
  built : (h.build t d).1 = .ok (.ok h.nextInstance)
  instance? : ∃ i, (h.build t d).2.instance? h.nextInstance = some i ∧ i.id = d.id ∧
    h'.instance? h.nextInstance = some (i.called .start ending) ∧
    h'.registry = h.registry.insert d.id h.nextInstance i.context ∧
    ∀ k, h'.registry.context? k = if k = d.id then i.context else h.registry.context? k
  get? : ∀ k, h'.registry.get? k = if k = d.id then some h.nextInstance else h.registry.get? k
  past : ∃ constructed, h'.past = h.past ++ constructed ++ [.registered d.id h.nextInstance,
      .called h.nextInstance .start, .ended h.nextInstance .start ending] ∧
    ∀ w ∈ constructed, w.IsConstruction d.id

theorem Host.Built.onlyConstructs {version : String} {made : List Instance}
    (hb : h.Built id version made h') : h.OnlyConstructs id h' := by
  obtain ⟨new, hpast, hnew⟩ := hb.past
  refine ⟨hb.registry, new, hpast, fun w hw => ?_⟩
  obtain ⟨invocation, journaled, rfl⟩ := hnew w hw
  exact rfl

theorem Happening.IsConstruction.isBringing {w : Happening} (hw : w.IsConstruction id) :
    w.IsBringing id n := by
  cases w with
  | constructed => exact hw
  | _ => cases hw

theorem Host.AddsUnder.refl (h : Host) (id : String) : h.AddsUnder id h :=
  ⟨fun _ _ => rfl, fun _ _ => rfl, fun _ _ hi => hi, [], by simp⟩

theorem Host.Built.addsUnder {version : String} {made : List Instance}
    (hb : h.Built id version made h') : h.AddsUnder id h' := by
  obtain ⟨new, hpast, hnew⟩ := hb.onlyConstructs.past
  refine ⟨fun k _ => by rw [hb.registry], fun k _ => by rw [hb.registry],
    fun n i => hb.instance?_eq, new, hpast, fun w hw => (hnew w hw).isBringing⟩

/-- Bringing in the next new instance leaves everything else alone. -/
theorem Host.Maps.addsUnder {ending : Ending} (hm : h.Maps t d ending h')
    (hinstances : ∀ n i, h.instance? n = some i → h'.instance? n = some i) :
    h.AddsUnder d.id h' := by
  obtain ⟨i, -, -, -, -, hcontext⟩ := hm.instance?
  obtain ⟨constructed, hpast, hconstructed⟩ := hm.past
  refine ⟨fun k hk => ?_, fun k hk => ?_, hinstances, ?_⟩
  · rw [hm.get?, if_neg hk]
  · rw [hcontext, if_neg hk]
  · refine ⟨_, hpast.trans (List.append_assoc _ _ _), ?_⟩
    simp only [List.forall_mem_append, List.forall_mem_cons, Happening.IsBringing, and_self,
      List.not_mem_nil, false_implies, implies_true, and_true]
    exact fun w hw => (hconstructed w hw).isBringing

/-! ## The endings -/

/-- Once an instance has been built, enabling ends with a blank id, or as its start does. -/
theorem registerBuilt_ends {b : Blueprint} {context : Context} {h₁ : Host}
    {r : Except String (Except LifecycleError Unit)}
    (hbuild : h.build t d = (.ok (.ok h.nextInstance), h₁))
    (hb : h.Built d.id d.version [.ofBlueprint b (some context)] h₁)
    (hid : (Instance.ofBlueprint b (some context)).id = d.id)
    (hends : (registerAndStart d.id h.nextInstance).Ends t h₁ r u h') :
    h.AddsUnder d.id h' ∧
      (((∃ message, r = .ok (.error (.invalidRegistration message))) ∧ h.OnlyConstructs d.id h') ∨
        ∃ ending : Ending, r = ending.startResult d.id ∧ h.Maps t d ending h') := by
  cases hblank : isBlankText d.id with
  | true =>
    obtain ⟨hr, rfl⟩ := registerAndStart_ends_blank hblank hends
    exact ⟨hb.addsUnder, .inl ⟨hr, hb.onlyConstructs⟩⟩
  | false =>
    obtain ⟨ending, hr, hreg, hpast, hi, hothers⟩ :=
      registerAndStart_ends_as hb.instance?_next hblank hends
    rw [hb.registry] at hreg
    obtain ⟨constructed, hbuilt, hconstructed⟩ := hb.onlyConstructs.past
    have hm : h.Maps t d ending h' := by
      refine ⟨congrArg (·.1) hbuild, ⟨_, ?_, hid, hi, hreg, fun k => ?_⟩, fun k => ?_,
        constructed, ?_, hconstructed⟩
      · rw [hbuild]
        exact hb.instance?_next
      · rw [hreg, Registry.context?_insert]
      · rw [hreg, Registry.get?_insert]
      · rw [hpast, hbuilt]
    refine ⟨hm.addsUnder fun n i hn => ?_, .inr ⟨ending, hr, hm⟩⟩
    -- What was there before has another number than the new instance.
    rw [hothers n (Nat.ne_of_lt (Host.instance?_lt hn))]
    exact hb.instance?_eq hn

/-- What an enabling comes to where it ends before the registry is changed: the error of the
build or of the registration, or the break-down of a constructor. -/
inductive Host.EndsUnregistered (h : Host) (t : Nat) (d : Descriptor) :
    Except String (Except HostError Unit) → Prop where
  | failed {e : HostError} : (∀ id reason, e ≠ .lifecycle (.startFailed id reason)) →
    EndsUnregistered h t d (.ok (.error e))
  | brokeDown {message : String} : (h.build t d).1 = .error message →
    EndsUnregistered h t d (.error message)

/-- Enabling ends before the registry is changed, or it ends as the start of the new
instance does. -/
theorem enable_ends_as {r : Except String (Except HostError Unit)}
    (hentry : d.hasEntryPoint = true) (hends : (enable d).Ends t h r u h') :
    h.AddsUnder d.id h' ∧
      (h.EndsUnregistered t d r ∧ h.OnlyConstructs d.id h' ∨
        ∃ ending : Ending, r = (ending.startResult d.id).map Except.asHostError ∧
          h.Maps t d ending h') := by
  unfold enable at hends
  rw [hentry] at hends
  have hrest := ends_act.mp hends
  have hmakes := h.build_makes t d
  generalize hbuild : h.build t d = built at hmakes hrest
  cases hmakes with
  | @brokeDown message h₁ hb =>
    obtain ⟨rfl, -, rfl⟩ := ends_breakDown.mp hrest
    exact ⟨hb.addsUnder, .inl ⟨.brokeDown (congrArg (·.1) hbuild), hb.onlyConstructs⟩⟩
  | @failed e made h₁ hb =>
    obtain ⟨rfl, -, rfl⟩ := ends_done.mp hrest
    refine ⟨hb.addsUnder, .inl ⟨.failed ?_, hb.onlyConstructs⟩⟩
    rintro id reason rfl
    exact Host.build_error (congrArg (·.1) hbuild)
  | @made b context h₁ hb hid =>
    have hregistered : ((registerAndStart d.id h.nextInstance).bind fun r =>
        done (Except.asHostError r)).Ends t h₁ r u h' := hrest
    obtain ⟨r', t₁, h₂, hstart, hdone⟩ | ⟨message, hr, hstart⟩ := ends_bind.mp hregistered
    · obtain ⟨hr, -, rfl⟩ := ends_done.mp hdone
      obtain ⟨hadds, ⟨⟨message, hr'⟩, honly⟩ | ⟨ending, hr', hm⟩⟩ :=
        registerBuilt_ends hbuild hb hid hstart
      · cases hr'
        obtain rfl := hr
        exact ⟨hadds, .inl ⟨.failed nofun, honly⟩⟩
      · exact ⟨hadds, .inr ⟨ending, by rw [hr, ← hr']; rfl, hm⟩⟩
    · obtain ⟨hadds, ⟨⟨message, hr'⟩, -⟩ | ⟨ending, hr', hm⟩⟩ :=
        registerBuilt_ends hbuild hb hid hstart
      · cases hr'
      · exact ⟨hadds, .inr ⟨ending, by rw [hr, ← hr']; rfl, hm⟩⟩

/-- Undisturbed, an enabling comes to an end if every call of foreign code returns or breaks
down, and however it ends it leaves other ids and the instances of before alone. Without an
entry point it succeeds and changes nothing. With an error other than that of the start, and
where a constructor breaks down, the registry is as it was, and no instance was called. With
the error of the start, with success, and where the start breaks down, the new instance is
registered under the id, with its context. -/
theorem enable_changes_own_id (t : Nat) (h : Host) (d : Descriptor) :
    (∃ r u h', (enable d).Ends t h r u h') ∧
      ∀ {r u h'}, (enable d).Ends t h r u h' →
        h.AddsUnder d.id h' ∧
        (d.hasEntryPoint = false → r = .ok (.ok ()) ∧ h' = h) ∧
        (∀ e, r = .ok (.error e) → (∀ reason, e ≠ .lifecycle (.startFailed d.id reason)) →
          h.OnlyConstructs d.id h') ∧
        (∀ id reason, r = .ok (.error (.lifecycle (.startFailed id reason))) →
          id = d.id ∧ ∃ e, reason = e.full ∧ h.Maps t d (.failed e) h') ∧
        (d.hasEntryPoint = true → r = .ok (.ok ()) → h.Maps t d .succeeded h') ∧
        ∀ message, r = .error message →
          (h.build t d).1 = .error message ∧ h.OnlyConstructs d.id h' ∨
            h.Maps t d (.brokeDown message) h' := by
  constructor
  · obtain ⟨r, hends⟩ := (enable_works d).timed.alone_ends t h
    exact ⟨r, _, _, hends⟩
  intro r u h' hends
  cases hentry : d.hasEntryPoint with
  | false =>
    unfold enable at hends
    rw [hentry] at hends
    obtain ⟨rfl, -, rfl⟩ := ends_done.mp hends
    exact ⟨.refl _ _, fun _ => ⟨rfl, rfl⟩, nofun, nofun, nofun, nofun⟩
  | true =>
    obtain ⟨hadds, ⟨hfirst, honly⟩ | ⟨ending, rfl, hm⟩⟩ := enable_ends_as hentry hends
    · cases hfirst with
      | failed he =>
        refine ⟨hadds, nofun, fun _ _ _ => honly, ?_, nofun, nofun⟩
        intro id reason hr
        cases hr
        exact absurd rfl (he id reason)
      | brokeDown hb =>
        refine ⟨hadds, nofun, nofun, nofun, nofun, ?_⟩
        rintro message hr
        cases hr
        exact .inl ⟨hb, honly⟩
    · refine ⟨hadds, nofun, ?_, ?_, ?_, ?_⟩
      · intro e hr he
        cases ending with
        | failed e' =>
          cases hr
          exact absurd rfl (he _)
        | _ => cases hr
      · intro id reason hr
        cases ending with
        | failed e' =>
          cases hr
          exact ⟨rfl, e', rfl, hm⟩
        | _ => cases hr
      · intro _ hr
        cases ending with
        | succeeded => exact hm
        | _ => cases hr
      · intro message hr
        cases ending with
        | brokeDown message' =>
          cases hr
          exact .inr hm
        | _ => cases hr

/-- Where an extension is registered, enabling it for an entry point that nobody has fails and
leaves it registered; enabling it once more registers the new instance in its place. -/
theorem enable_changes_registered :
    (∃ u h', (enable (.at "absent" "a")).Ends 7 .busyRegistered
        (.ok (.error (.load (.entryPointNotFound "a" "absent")))) u h' ∧
      Host.busyRegistered.OnlyConstructs "a" h') ∧
    ∃ u h', (enable (.at "busy" "a")).Ends 7 .busyRegistered (.ok (.ok ())) u h' ∧
      Host.busyRegistered.AddsUnder "a" h' ∧
      Host.busyRegistered.Maps 7 (.at "busy" "a") .succeeded h' := by
  have habsent : ((enable (.at "absent" "a")).alone 7 .busyRegistered).2.1.value? =
      some (.error (.load (.entryPointNotFound "a" "absent"))) := by decide +kernel
  have hbusy : ((enable (.at "busy" "a")).alone 7 .busyRegistered).2.1.value? = some (.ok ()) := by
    decide +kernel
  obtain ⟨-, hfails⟩ := enable_changes_own_id 7 .busyRegistered (.at "absent" "a")
  obtain ⟨-, hsucceeds⟩ := enable_changes_own_id 7 .busyRegistered (.at "busy" "a")
  constructor
  · have hends := ends_of_value? habsent
    obtain ⟨-, -, honly, -⟩ := hfails hends
    exact ⟨_, _, hends, honly _ rfl nofun⟩
  · have hends := ends_of_value? hbusy
    obtain ⟨hadds, -, -, -, hmaps, -⟩ := hsucceeds hends
    exact ⟨_, _, hends, hadds, hmaps (by decide) rfl⟩

end ExtensionHost
