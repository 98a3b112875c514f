import ExtensionHost.Proofs.Origin
import ExtensionHost.Proofs.UpdateEnding

/-!
# What enabling brings

A new instance, if it can be built: made for the description, registered under its id with
its context, and told to start. An update that has taken the old instance out brings the
new one in the same way.
-/

namespace ExtensionHost

open Program

variable {meant : Descriptor → Blueprint → Prop} {t u n : Nat} {h h' : Host} {d old : Descriptor}
variable {i : Instance} {ending : Ending}

/-! ## Building -/

/-- An instance that has just been built for a description. -/
structure Instance.IsNew (meant : Descriptor → Blueprint → Prop) (i : Instance) (d : Descriptor) :
    Prop where
  stems : i.StemsFrom meant d
  id : i.id = d.id
  enabled : i.enabled = true

theorem Host.build_ok (hS : h.setup.Builds meant) (hb : (h.build t d).1 = .ok (.ok n)) :
    n = h.nextInstance ∧ (h.build t d).2.registry = h.registry ∧
      (∃ i, (h.build t d).2.instance? n = some i ∧ i.IsNew meant d) ∧
      ∃ new, (h.build t d).2.past = h.past ++ new ∧
        ∀ w ∈ new, ∃ invocation journaled,
          w = .constructed d.id d.version invocation journaled := by
  have hmakes := h.build_makes t d
  have hstems {i} (hi : (h.build t d).2.instance? n = some i) := build_stems hS hi
  generalize h.build t d = made at hb hmakes hstems
  cases hmakes with
  | brokeDown | failed => cases hb
  | @made b context h' hbuilt hid =>
    cases hb
    refine ⟨rfl, hbuilt.registry, ⟨_, hbuilt.instance?_next, ?_, hid, rfl⟩, hbuilt.past⟩
    -- The number is new, so the instance is not one from before.
    rcases hstems hbuilt.instance?_next with hi | hi
    · exact absurd (instance?_lt hi) (Nat.lt_irrefl _)
    · exact hi

/-! ## Bringing in -/

/-- Beyond `h` a new instance is registered under the id of the description, and start was
called on it and ended so. -/
structure Host.Brings (meant : Descriptor → Blueprint → Prop) (h : Host) (d : Descriptor)
    (ending : Ending) (h' : Host) : Prop where
  brought : ∃ i : Instance, i.IsNew meant d ∧
    h'.registry = h.registry.insert d.id h.nextInstance i.context ∧
    h'.instance? h.nextInstance = some (i.called .start ending)
  past : ∃ constructed, h'.past = h.past ++ constructed ++
      [.registered d.id h.nextInstance, .called h.nextInstance .start,
        .ended h.nextInstance .start ending] ∧
    ∀ w ∈ constructed, ∃ invocation journaled,
      w = .constructed d.id d.version invocation journaled

/-- What was built is registered and started. -/
theorem registerAndStart_brings {r : Except LifecycleError Unit} (hS : h.setup.Builds meant)
    (hid : isBlankText d.id = false) (hb : (h.build t d).1 = .ok (.ok n))
    (hends : (registerAndStart d.id n).Ends t (h.build t d).2 (.ok r) u h') :
    ∃ ending, StartOutcome d.id ending r ∧ h.Brings meant d ending h' := by
  rcases Host.build_ok hS hb with ⟨rfl, hreg, ⟨i, hi, hnew⟩, constructed, hpast, hconstructed⟩
  rcases registerAndStart_ends hi hid hends with ⟨ending, houtcome, hreg', hpast', hi'⟩
  refine ⟨ending, houtcome, ⟨i, hnew, hreg ▸ hreg', hi'⟩, constructed, ?_, hconstructed⟩
  rw [hpast', hpast]

/-- Enabling fails in the build, or it brings in a new instance. -/
theorem enable_ends {r : Except HostError Unit} (hS : h.setup.Builds meant)
    (hentry : d.hasEntryPoint = true) (hid : isBlankText d.id = false)
    (hends : (enable d).Ends t h (.ok r) u h') :
    (∃ e, (h.build t d).1 = .ok (.error e) ∧ r = .error e ∧ h' = (h.build t d).2) ∨
      ∃ ending r', StartOutcome d.id ending r' ∧ r = Except.asHostError r' ∧
        h.Brings meant d ending h' := by
  unfold enable at hends
  rw [hentry] at hends
  rcases ends_bind_ok.mp hends with ⟨made, t₁, h₁, hbuild, hrest⟩
  obtain ⟨hmade, rfl, rfl⟩ := build_ends.mp hbuild
  cases made with
  | error e =>
    obtain ⟨hr, -, rfl⟩ := ends_done.mp hrest
    cases hr
    exact .inl ⟨e, hmade.symm, rfl, rfl⟩
  | ok n =>
    rcases ends_bind_ok.mp hrest with ⟨r', t₂, h₂, hstart, hdone⟩
    obtain ⟨hr, -, rfl⟩ := ends_done.mp hdone
    cases hr
    rcases registerAndStart_brings hS hid hmade.symm hstart with ⟨ending, houtcome, hbrings⟩
    exact .inr ⟨ending, r', houtcome, rfl, hbrings⟩

/-- What comes after a successful start is no more than hooks. -/
theorem replaceWith_ok (hS : h.setup.Builds meant) (hid : isBlankText d.id = false)
    (hends : (replaceWith d old).Ends t h (.ok (.ok ())) u h') :
    ∃ h₁, h.Brings meant d .succeeded h₁ ∧ h'.registry = h₁.registry ∧
      h'.instances = h₁.instances := by
  rcases ends_bind_ok.mp hends with ⟨made, t₁, h₁, hbuild, hrest⟩
  obtain ⟨hmade, rfl, rfl⟩ := build_ends.mp hbuild
  cases made with
  | error e =>
    have hfailed := (rollBack_ends hrest).1
    cases hfailed
  | ok n =>
    rcases ends_bind_ok.mp hrest with ⟨r, t₂, h₂, hstart, hrest⟩
    rcases registerAndStart_brings hS hid hmade.symm hstart with ⟨ending, houtcome, hbrings⟩
    cases houtcome with
    | failed =>
      rcases ends_bind_ok.mp hrest with ⟨_, t₃, h₃, -, hdone⟩
      obtain ⟨hr, -⟩ := ends_done.mp hdone
      cases hr
    | started =>
      rcases ends_bind_ok.mp hrest with ⟨_, t₃, h₃, hhooks, hdone⟩
      obtain ⟨-, -, rfl⟩ := ends_done.mp hdone
      rcases runHooks_ends hhooks with ⟨hreg, hinstances, -⟩
      exact ⟨h₂, hbrings, hreg, hinstances⟩

/-! ## What was brought in -/

theorem Instance.make_called (i : Instance) (call : Call) (ending : Ending) :
    (i.called call ending).make = i.make :=
  (i.callBegun call).make_callEnded call ending

theorem Instance.started_called_start (i : Instance) :
    (i.called .start .succeeded).started = true := rfl

theorem Instance.enabled_called (i : Instance) (call : Call) (ending : Ending) :
    (i.called call ending).enabled = i.enabled :=
  (i.callBegun call).enabled_callEnded call ending

namespace Host.Brings

/-- The new instance is what is registered, with its context, and is enabled. -/
theorem registered (hb : h.Brings meant d ending h') :
    ∃ i, i.IsNew meant d ∧ h'.registry.get? d.id = some h.nextInstance ∧
      h'.instance? h.nextInstance = some i ∧ h'.registry.context? d.id = i.context ∧
      (ending = .succeeded → i.started = true) := by
  rcases hb.brought with ⟨i, hnew, hreg, hi⟩
  have hmake := i.make_called .start ending
  refine ⟨_, ⟨hnew.stems.of_make hmake, ?_, ?_⟩, ?_, hi, ?_, ?_⟩
  · exact (Instance.id_eq_of_make hmake).trans hnew.id
  · rw [i.enabled_called, hnew.enabled]
  · rw [hreg, Registry.get?_insert, if_pos rfl]
  · rw [hreg, Registry.context?_insert, if_pos rfl]
    exact (congrArg (·.2.1) hmake).symm
  · rintro rfl
    exact i.started_called_start

end Host.Brings

/-- What was made for a description has a context that knows its version. -/
theorem Instance.StemsFrom.sourceVersion (hi : i.StemsFrom meant d)
    (hexposes : ∀ d b, meant d b → b.exposesContext = true) :
    i.context.bind (·.sourceVersion) = some d.version := by
  rcases hi with ⟨-, b, context, hmake, hversion, -, hmeant⟩
  have hcontext : i.context = if b.exposesContext then some context else none :=
    congrArg (·.2.1) hmake
  have hb : b.exposesContext = true := by
    rcases hmeant with hmeant | rfl
    · exact hexposes _ _ hmeant
    · rfl
  rw [hcontext, hb, if_pos rfl, Option.bind_some, hversion]

/-- Reconciling sees the version that the new instance was made for. -/
theorem Host.loadedVersion_of_context {version : String}
    (hcontext : h.registry.context? i.id = i.context)
    (hversion : i.context.bind (·.sourceVersion) = some version) :
    h.loadedVersion i = version := by
  rw [loadedVersion, hcontext, hversion, Option.getD_some]

end ExtensionHost
