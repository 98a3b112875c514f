import ExtensionHost.Proofs.BreakDown
import ExtensionHost.Proofs.Frame
import Mathlib.Logic.ExistsUnique

/-!
# How an update ends

An update of a registered instance that nobody disturbs ends in one of four ways: the
old instance is kept, the host goes back to it, the new one is registered but did not
start, or it has taken the place of the old one. Only foreign code that breaks down
keeps an update from ending so.
-/

namespace ExtensionHost

open Program

variable {α β : Type} {t u : Nat} {h h' : Host} {n m : Nat} {d : Descriptor} {old i : Instance}
variable {id : String}

/-! ## The end of what an update consists of -/

/-- Cleanup hooks change nothing but the history. -/
theorem runHooks_ends {phase : CleanupPhase} {r : Except String Unit}
    (hends : (runHooks id phase).Ends t h r u h') :
    h'.registry = h.registry ∧ h'.instances = h.instances ∧
      ∃ new, h'.past = h.past ++ new ∧ ∀ w ∈ new, ∃ d : Deed, d.IsHookRun ∧ d.Leaves w := by
  have hw : (runHooks id phase).Works Deed.IsHookRun := runHooks_works fun _ => trivial
  obtain ⟨hreg, -, hpast⟩ := hw.ends (fun _ => Deed.IsHookRun.sparesRegistry) hends
  refine ⟨hreg, ?_, hpast⟩
  obtain ⟨steps, hrun⟩ := hends
  refine hw.undisturbed (R := fun a b => b.instances = a.instances) hrun (fun _ => rfl)
    (fun hab hbc => hbc.trans hab) fun h now d hd => ?_
  cases d <;> first | rfl | exact (hd.elim False.elim False.elim)

/-- What an instance has become that was called and has answered. -/
def Instance.called (i : Instance) (call : Call) (ending : Ending) : Instance :=
  (i.callBegun call).callEnded call ending

theorem callInstance_ends_of_some {call : Call} {r : Except String (Except ErrorChain Unit)}
    (hi : h.instance? n = some i) (hends : (callInstance n call).Ends t h r u h') :
    ∃ ending, r = ending.outcome ∧ h'.registry = h.registry ∧
      h'.past = h.past ++ [.called n call, .ended n call ending] ∧
      h'.instance? n = some (i.called call ending) := by
  obtain ⟨hr, -, rfl⟩ := callInstance_ends.mp hends
  rw [Host.beginCall_some hi] at hr ⊢
  refine ⟨_, hr, rfl, by simp [Host.endCall], ?_⟩
  have hbegun : ((h.modifyInstance n (·.callBegun call)).happen t (.called n call)).instance? n =
      some (i.callBegun call) := by
    show (h.modifyInstance n (·.callBegun call)).instance? n = _
    simp [Host.instance?_modifyInstance, hi]
  show (Host.modifyInstance _ n _).instance? n = _
  simp [Host.instance?_modifyInstance, hbegun, Instance.called]

/-- A call of an instance changes no other. -/
theorem callInstance_ends_as {call : Call} {r : Except String (Except ErrorChain Unit)}
    (hi : h.instance? n = some i) (hends : (callInstance n call).Ends t h r u h') :
    ∃ ending, r = ending.outcome ∧ h'.registry = h.registry ∧
      h'.past = h.past ++ [.called n call, .ended n call ending] ∧
      h'.instance? n = some (i.called call ending) ∧
      ∀ m, m ≠ n → h'.instance? m = h.instance? m := by
  obtain ⟨ending, hr, hreg, hpast, hi'⟩ := callInstance_ends_of_some hi hends
  refine ⟨ending, hr, hreg, hpast, hi', fun m hm => ?_⟩
  obtain ⟨-, -, rfl⟩ := callInstance_ends.mp hends
  rw [Host.beginCall_some hi]
  have hbegun : ((h.modifyInstance n (·.callBegun call)).happen t (.called n call)).instance? m =
      h.instance? m := by
    show (h.modifyInstance n (·.callBegun call)).instance? m = _
    rw [Host.instance?_modifyInstance, if_neg hm.symm]
  show (Host.modifyInstance _ n _).instance? m = _
  rw [Host.instance?_modifyInstance, if_neg hm.symm, hbegun]

/-- What a start that ends so comes to for those who enable. -/
def Ending.startResult (id : String) : Ending → Except String (Except LifecycleError Unit)
  | .succeeded => .ok (.ok ())
  | .failed e => .ok (.error (.startFailed id e.full))
  | .brokeDown message => .error message

/-- Where the id is blank nothing is registered, and so nothing is started. -/
theorem registerAndStart_ends_blank {r : Except String (Except LifecycleError Unit)}
    (hid : isBlankText id = true) (hends : (registerAndStart id n).Ends t h r u h') :
    (∃ message, r = .ok (.error (.invalidRegistration message))) ∧ h' = h := by
  have hregister := ends_act.mp hends
  rw [Host.register_blank hid] at hregister
  obtain ⟨hr, -, rfl⟩ := ends_done.mp hregister
  exact ⟨⟨_, hr⟩, rfl⟩

/-- What is registered is started, and stays registered however the start ends. -/
theorem startRegistered_ends_as {r : Except String (Except LifecycleError Unit)}
    (hn : h.registry.get? id = some n) (hi : h.instance? n = some i)
    (hends : (startRegistered id).Ends t h r u h') :
    ∃ ending : Ending, r = ending.startResult id ∧ h'.registry = h.registry ∧
      h'.past = h.past ++ [.called n .start, .ended n .start ending] ∧
      h'.instance? n = some (i.called .start ending) ∧
      ∀ m, m ≠ n → h'.instance? m = h.instance? m := by
  have hcall := ends_ask_bind.mp hends
  rw [hn] at hcall
  obtain ⟨answer, t₁, h₁, hcalled, hanswer⟩ | ⟨message, hr, hcalled⟩ := ends_bind.mp hcall
  · obtain ⟨ending, hending, hsame⟩ := callInstance_ends_as hi hcalled
    have hend : r = ending.startResult id ∧ h' = h₁ := by
      cases ending with
      | succeeded =>
        cases hending
        obtain ⟨hr, -, rfl⟩ := ends_done.mp hanswer
        exact ⟨hr, rfl⟩
      | failed e =>
        cases hending
        obtain ⟨hr, -, rfl⟩ := ends_done.mp hanswer
        exact ⟨hr, rfl⟩
      | brokeDown message => cases hending
    obtain ⟨hr, rfl⟩ := hend
    exact ⟨ending, hr, hsame⟩
  · obtain ⟨ending, hending, hsame⟩ := callInstance_ends_as hi hcalled
    obtain rfl := Ending.outcome_eq_error hending
    exact ⟨.brokeDown message, hr, hsame⟩

/-- What is registered and started is registered however the start ends. -/
theorem registerAndStart_ends_as {r : Except String (Except LifecycleError Unit)}
    (hi : h.instance? n = some i) (hid : isBlankText id = false)
    (hends : (registerAndStart id n).Ends t h r u h') :
    ∃ ending : Ending, r = ending.startResult id ∧
      h'.registry = h.registry.insert id n i.context ∧
      h'.past = h.past ++ [.registered id n, .called n .start, .ended n .start ending] ∧
      h'.instance? n = some (i.called .start ending) ∧
      ∀ m, m ≠ n → h'.instance? m = h.instance? m := by
  have hreg : (h.register t id n).2.registry = h.registry.insert id n i.context := by
    rw [Host.register_not_blank hid, hi]
    rfl
  have hpast : (h.register t id n).2.past = h.past ++ [.registered id n] := by
    rw [Host.register_not_blank hid, Host.past_notice, Host.past_happen]
    rfl
  have hsame : (h.register t id n).2.instances = h.instances := by
    rw [Host.register_not_blank hid]
    rfl
  have hstart : (startRegistered id).Ends t (h.register t id n).2 r u h' := by
    have hrest := ends_act.mp hends
    rw [Host.register_not_blank hid] at hrest ⊢
    exact hrest
  have hn : (h.register t id n).2.registry.get? id = some n := by
    rw [hreg, Registry.get?_insert, if_pos rfl]
  have hinstance : ∀ m, (h.register t id n).2.instance? m = h.instance? m := by
    intro m
    rw [Host.instance?, hsame]
    rfl
  obtain ⟨ending, hr, hreg', hpast', hi', hothers⟩ :=
    startRegistered_ends_as hn ((hinstance n).trans hi) hstart
  refine ⟨ending, hr, hreg'.trans hreg, ?_, hi', fun m hm => (hothers m hm).trans (hinstance m)⟩
  rw [hpast', hpast, List.append_assoc]
  rfl

/-- How the start of an instance that has been registered comes out. -/
inductive StartOutcome (id : String) : Ending → Except LifecycleError Unit → Prop where
  | started : StartOutcome id .succeeded (.ok ())
  | failed {e : ErrorChain} : StartOutcome id (.failed e) (.error (.startFailed id e.full))

theorem registerAndStart_ends {r : Except LifecycleError Unit} (hi : h.instance? n = some i)
    (hid : isBlankText id = false) (hends : (registerAndStart id n).Ends t h (.ok r) u h') :
    ∃ ending, StartOutcome id ending r ∧ h'.registry = h.registry.insert id n i.context ∧
      h'.past = h.past ++ [.registered id n, .called n .start, .ended n .start ending] ∧
      h'.instance? n = some (i.called .start ending) := by
  obtain ⟨ending, hr, hreg, hpast, hi', -⟩ := registerAndStart_ends_as hi hid hends
  have houtcome : StartOutcome id ending r := by
    cases ending with
    | succeeded =>
      cases hr
      exact .started
    | failed e =>
      cases hr
      exact .failed
    | brokeDown message => cases hr
  exact ⟨ending, houtcome, hreg, hpast, hi'⟩

/-- Where the new version cannot be built, the old one is enabled again. -/
theorem rollBack_ends {e : HostError} {r : Except HostError Unit}
    (hends : (rollBack id d e).Ends t h (.ok r) u h') :
    r = .error (.lifecycle (.updateFailed id e.message)) ∧
      ∃ back t₁ h₁ t₂ h₂, (enable d).Ends t₁ h₁ (.ok back) t₂ h₂ ∧ h₁.setup = h.setup ∧
        h₁.registry = h.registry ∧ h'.registry = h₂.registry := by
  obtain ⟨_, t₁, h₁, hnote, hrest⟩ := ends_bind_ok.mp hends
  obtain ⟨-, rfl, rfl⟩ := ends_change.mp hnote
  obtain ⟨back, t₂, h₂, henable, hrest⟩ := ends_bind_ok.mp hrest
  obtain ⟨_, t₃, h₃, hfailure, hrest⟩ := ends_bind_ok.mp hrest
  obtain ⟨_, t₄, h₄, hhooks, hdone⟩ := ends_bind_ok.mp hrest
  obtain ⟨hr, -, rfl⟩ := ends_done.mp hdone
  cases hr
  have hquiet : (noteFailure (.rollbackFailed id) back).Works fun _ => False :=
    noteFailure_works _ back
  obtain ⟨hreg₃, -⟩ := hquiet.ends (fun _ => False.elim) hfailure
  obtain ⟨hreg₄, -⟩ := runHooks_ends hhooks
  exact ⟨rfl, back, t₁, _, t₂, h₂, henable, rfl, rfl, hreg₄.trans hreg₃⟩

/-- A host on which a new instance has been built and registered, and start was called
on it and ended so. Start of no other instance has ended. -/
structure Host.Replaced (h : Host) (d : Descriptor) (ending : Ending) (h' : Host) : Prop where
  made : ∃ (b : Blueprint) (context : Context),
    (Instance.ofBlueprint b (some context)).id = d.id ∧
    h'.registry =
      h.registry.insert d.id h.nextInstance (Instance.ofBlueprint b (some context)).context ∧
    h'.instance? h.nextInstance =
      some ((Instance.ofBlueprint b (some context)).called .start ending)
  past : ∃ constructed hooks, h'.past = h.past ++ constructed ++
    [.registered d.id h.nextInstance, .called h.nextInstance .start,
      .ended h.nextInstance .start ending] ++ hooks ∧
    ∀ m ending, .ended m .start ending ∉ constructed ++ hooks

theorem replaceWith_ends {old : Descriptor} {r : Except HostError Unit}
    (hid : isBlankText d.id = false) (hends : (replaceWith d old).Ends t h (.ok r) u h') :
    (∃ e t₁ h₁, (h.build t d).1 = .ok (.error e) ∧ h₁.setup = h.setup ∧ h₁.registry = h.registry ∧
      (rollBack d.id old e).Ends t₁ h₁ (.ok r) u h') ∨
    ∃ ending r', StartOutcome d.id ending r' ∧ r = Except.asHostError r' ∧
      h.Replaced d ending h' := by
  obtain ⟨made, t₁, h₁, hbuild, hrest⟩ := ends_bind_ok.mp hends
  obtain ⟨hmade, rfl, rfl⟩ := build_ends.mp hbuild
  -- Either the rollback follows, or the new instance is registered and started.
  have hmakes := h.build_makes t₁ d
  generalize h.build t₁ d = built at hmade hmakes hrest
  cases hmakes with
  | brokeDown => cases hmade
  | @failed e made h₁ hb =>
    cases hmade
    exact .inl ⟨e, t₁, h₁, rfl, hb.setup, hb.registry, hrest⟩
  | @made b context h₁ hb hbid =>
    cases hmade
    obtain ⟨r', t₂, h₂, hstart, hrest⟩ := ends_bind_ok.mp hrest
    obtain ⟨ending, houtcome, hreg, hpast, hi⟩ := registerAndStart_ends hb.instance?_next hid hstart
    -- The hooks run for a phase that depends on the outcome; beyond that it does not matter.
    have hhooks : ∃ phase t₃, (runHooks d.id phase).Ends t₂ h₂ (.ok ()) t₃ h' ∧
        r = Except.asHostError r' := by
      cases r' with
      | ok _ =>
        obtain ⟨_, t₃, h₃, hhooks, hdone⟩ := ends_bind_ok.mp hrest
        obtain ⟨hr, -, rfl⟩ := ends_done.mp hdone
        cases hr
        exact ⟨_, t₃, hhooks, rfl⟩
      | error e =>
        obtain ⟨_, t₃, h₃, hhooks, hdone⟩ := ends_bind_ok.mp hrest
        obtain ⟨hr, -, rfl⟩ := ends_done.mp hdone
        cases hr
        exact ⟨_, t₃, hhooks, rfl⟩
    obtain ⟨phase, t₃, hhooks, hr⟩ := hhooks
    obtain ⟨hreg', hinst', hooks, hpast', honly⟩ := runHooks_ends hhooks
    obtain ⟨constructed, hbpast, hconstructed⟩ := hb.past
    refine .inr ⟨ending, r', houtcome, hr, ⟨b, context, hbid, ?_, ?_⟩, constructed, hooks, ?_, ?_⟩
    · rw [hreg', hreg, hb.registry]
    · rw [Host.instance?, hinst']
      exact hi
    · rw [hpast', hpast, hbpast]
    · intro m ending hmem
      obtain hmem | hmem := List.mem_append.mp hmem
      · obtain ⟨invocation, journaled, hw⟩ := hconstructed _ hmem
        cases hw
      · exact Deed.ended_not_left honly False.elim hmem

/-- Once the old instance has been taken out, it is told to clean up, and then replaced. -/
theorem replaceTaken_ends {old : Descriptor} {settleDelayMs : Nat} {r : Except HostError Unit}
    (hi : h.instance? n = some i)
    (hends : (replaceTaken d n old settleDelayMs).Ends t h (.ok r) u h') :
    ∃ ending t₁ h₁, h₁.registry = h.registry ∧ h.Grew h₁ ∧
      h₁.past = h.past ++ [.called n (.cleanup false), .ended n (.cleanup false) ending] ∧
      (replaceWith d old).Ends t₁ h₁ (.ok r) u h' := by
  have hcall : (callInstance n (.cleanup false)).Works (Deed.IsCall (· = n) fun _ => True) :=
    callInstance_isCall rfl trivial
  obtain ⟨cleaned, t₁, h₁, hcleaned, hrest⟩ := ends_bind_ok.mp hends
  obtain ⟨ending, -, hreg, hpast, -⟩ := callInstance_ends_of_some hi hcleaned
  obtain ⟨-, hgrew, -⟩ := hcall.ends (fun _ => Deed.IsCall.sparesRegistry) hcleaned
  obtain ⟨_, t₂, h₂, hnoted, hrest⟩ := ends_bind_ok.mp hrest
  have hnote : h₂.registry = h₁.registry ∧ h₁.Grew h₂ ∧ h₂.past = h₁.past := by
    cases cleaned with
    | ok _ =>
      obtain ⟨-, -, rfl⟩ := ends_done.mp hnoted
      exact ⟨rfl, .refl _, rfl⟩
    | error e =>
      obtain ⟨-, -, rfl⟩ := ends_change.mp hnoted
      exact ⟨rfl, h₁.perform_grew t₁ (.notice _), rfl⟩
  obtain ⟨hreg', hgrew', hpast'⟩ := hnote
  obtain ⟨_, t₃, h₃, hslept, hreplaced⟩ := ends_bind_ok.mp hrest
  obtain ⟨-, -, rfl⟩ := ends_sleep.mp hslept
  exact ⟨ending, t₃, h₃, hreg'.trans hreg, hgrew.trans hgrew', hpast'.trans hpast, hreplaced⟩

/-- An update drains the old instance, and goes on only if that succeeds. -/
theorem updateRegistered_ends {r : Except HostError Unit}
    (hends : (updateRegistered d n old).Ends t h (.ok r) u h') :
    ∃ drained t₁ h₁, (drain n h.settings.policy.drainTimeoutMs).Ends t
        (h.notice (versionNotices d.id old.descriptor.version d.version)) (.ok drained) t₁ h₁ ∧
      ((∃ e v, drained = .error e ∧ r = .error (.lifecycle (.updateFailed d.id e.message)) ∧
          (runHooks d.id .updateFailed).Ends t₁ h₁ (.ok ()) v h') ∨
        drained = .ok () ∧
          (replaceTaken d n old.descriptor h.settings.policy.settleDelayMs).Ends t₁
            (h₁.unregister t₁ d.id).2 (.ok r) u h') := by
  obtain ⟨_, t₁, h₁, hnoted, hrest⟩ := ends_bind_ok.mp hends
  obtain ⟨-, rfl, rfl⟩ := ends_change.mp hnoted
  obtain ⟨policy, t₂, h₂, hasked, hrest⟩ := ends_bind_ok.mp hrest
  obtain ⟨hpolicy, rfl, rfl⟩ := ends_ask.mp hasked
  cases hpolicy
  obtain ⟨drained, t₃, h₃, hdrained, hrest⟩ := ends_bind_ok.mp hrest
  refine ⟨drained, t₃, h₃, hdrained, ?_⟩
  cases drained with
  | error e =>
    obtain ⟨_, t₄, h₄, hhooks, hdone⟩ := ends_bind_ok.mp hrest
    obtain ⟨hr, -, rfl⟩ := ends_done.mp hdone
    cases hr
    exact .inl ⟨e, t₄, rfl, rfl, hhooks⟩
  | ok _ =>
    obtain ⟨found, t₄, h₄, htaken, hrest⟩ := ends_bind_ok.mp hrest
    obtain ⟨-, rfl, rfl⟩ := ends_done.mp (ends_act.mp htaken)
    exact .inr ⟨rfl, hrest⟩

/-- The update of what is registered is that of the registered instance. -/
theorem update_ends_registered {r : Except String (Except HostError Unit)}
    (hn : h.registry.get? d.id = some n) (hi : h.instance? n = some old)
    (hends : (update d).Ends t h r u h') : (updateRegistered d n old).Ends t h r u h' := by
  have hfound := ends_ask_bind.mp hends
  simp only [hn, hi, Option.bind_some, Option.map_some] at hfound
  exact hfound

/-! ## The four ways -/

/-- The ways in which an update of a registered instance ends. -/
inductive UpdateEnding where
  | kept
  | wentBack
  | notStarted
  | updated
  deriving DecidableEq, Repr

/-- An update of an instance, from its start to its end with a result. -/
structure UpdateRun where
  d : Descriptor
  n : Nat
  old : Instance
  start : Nat
  before : Host
  result : Except HostError Unit
  after : Host

namespace UpdateRun

/-- What has happened in the update. -/
def happenings (x : UpdateRun) : List Happening :=
  x.after.since x.before

/-- The drain that the update begins with comes to an end. -/
def Drained (x : UpdateRun) (r : Except LifecycleError Unit) : Prop :=
  ∃ t h, (drain x.n x.before.settings.policy.drainTimeoutMs).Ends x.start
    (x.before.notice (versionNotices x.d.id x.old.descriptor.version x.d.version)) (.ok r) t h

/-- The drain failed, and the old instance is kept: nothing was registered or taken out,
nothing was constructed, and the old instance was not told to clean up. -/
structure Kept (x : UpdateRun) : Prop where
  drained : ∃ e, x.Drained (.error e) ∧
    x.result = .error (.lifecycle (.updateFailed x.d.id e.message))
  registry : x.after.registry = x.before.registry
  notConstructed : ∀ id version invocation journaled,
    .constructed id version invocation journaled ∉ x.happenings
  notCleaned : ∀ removed, .called x.n (.cleanup removed) ∉ x.happenings

/-- The new version could not be built. The old instance was drained and cleaned up once,
and what is registered is what comes of enabling the old version where the old instance
has been taken out. -/
structure WentBack (x : UpdateRun) : Prop where
  result : ∃ (t : Nat) (h : Host) (e : HostError), (h.build t x.d).1 = .ok (.error e) ∧
    h.setup = x.before.setup ∧ x.result = .error (.lifecycle (.updateFailed x.d.id e.message))
  drained : x.Drained (.ok ())
  cleaned : x.happenings.count (.called x.n (.cleanup false)) = 1
  enabled : ∃ back t₁ h₁ t₂ h₂, (enable x.old.descriptor).Ends t₁ h₁ (.ok back) t₂ h₂ ∧
    h₁.setup = x.before.setup ∧ h₁.registry = x.before.registry.erase x.d.id ∧
    x.after.registry = h₂.registry

/-- What is registered under the id is a new instance with its context, which has been
started or not. -/
def HasNew (x : UpdateRun) (started : Bool) : Prop :=
  ∃ (m : Nat) (i : Instance), x.before.instance? m = none ∧
    x.after.registry.get? x.d.id = some m ∧ x.after.instance? m = some i ∧ i.id = x.d.id ∧
    x.after.registry.context? x.d.id = i.context ∧ i.started = started ∧
    (.ended m .start .succeeded ∈ x.happenings ↔ started = true)

/-- The new instance is registered, and did not start. -/
structure NotStarted (x : UpdateRun) : Prop where
  result : ∃ reason, x.result = .error (.lifecycle (.startFailed x.d.id reason))
  new : x.HasNew false

/-- The new instance is registered, and has been started. -/
structure Updated (x : UpdateRun) : Prop where
  result : x.result = .ok ()
  new : x.HasNew true

/-- How the update has ended. -/
def EndsAs (x : UpdateRun) : UpdateEnding → Prop
  | .kept => x.Kept
  | .wentBack => x.WentBack
  | .notStarted => x.NotStarted
  | .updated => x.Updated

/-- The ending as it shows in the result and in the history. -/
def shown (x : UpdateRun) : UpdateEnding :=
  match x.result with
  | .ok _ => .updated
  | .error (.lifecycle (.startFailed _ _)) => .notStarted
  | .error _ => if .called x.n (.cleanup false) ∈ x.happenings then .wentBack else .kept

theorem EndsAs.eq_shown {x : UpdateRun} {ending : UpdateEnding} (hx : x.EndsAs ending) :
    ending = x.shown := by
  cases ending with
  | kept =>
    obtain ⟨e, -, hresult⟩ := hx.drained
    simp [shown, hresult, hx.notCleaned]
  | wentBack =>
    obtain ⟨t, h, e, -, -, hresult⟩ := hx.result
    have hmem : .called x.n (.cleanup false) ∈ x.happenings :=
      List.count_pos_iff.mp (by simp [hx.cleaned])
    simp [shown, hresult, hmem]
  | notStarted =>
    obtain ⟨reason, hresult⟩ := hx.result
    simp [shown, hresult]
  | updated => simp [shown, hx.result]

end UpdateRun

namespace UpdateRun

variable {x : UpdateRun}

/-- A drain that failed leaves the old instance where it is. -/
theorem kept_of_drained {e : LifecycleError} {t₁ v : Nat} {h₁ : Host}
    (hdrained : (drain x.n x.before.settings.policy.drainTimeoutMs).Ends x.start
      (x.before.notice (versionNotices x.d.id x.old.descriptor.version x.d.version))
      (.ok (.error e)) t₁ h₁)
    (hresult : x.result = .error (.lifecycle (.updateFailed x.d.id e.message)))
    (hhooks : (runHooks x.d.id .updateFailed).Ends t₁ h₁ (.ok ()) v x.after) : x.Kept := by
  obtain ⟨hreg, -, drained, hpast, hleft⟩ :=
    (drain_works x.n _).ends (fun _ => Deed.IsDraining.sparesRegistry) hdrained
  obtain ⟨hreg', -, hooks, hpast', hleft'⟩ := runHooks_ends hhooks
  have hhappenings : x.happenings = drained ++ hooks := by
    refine Host.since_eq ?_
    rw [hpast', hpast, Host.past_notice, List.append_assoc]
  refine ⟨⟨e, ⟨t₁, h₁, hdrained⟩, hresult⟩, hreg'.trans hreg, ?_, ?_⟩
  · intro id version invocation journaled hmem
    obtain hmem | hmem := List.mem_append.mp (hhappenings ▸ hmem)
    · exact Deed.constructed_not_left hleft (fun _ hd => hd.elim False.elim False.elim) hmem
    · exact Deed.constructed_not_left hleft' (fun _ => False.elim) hmem
  · intro removed hmem
    obtain hmem | hmem := List.mem_append.mp (hhappenings ▸ hmem)
    · exact Deed.called_not_left hleft Deed.IsDraining.not_cleanup hmem
    · exact Deed.called_not_left hleft' False.elim hmem

end UpdateRun

/-- The drain of a registered instance, and what has happened until the old instance has
been cleaned up. -/
structure Host.Cleared (h : Host) (d : Descriptor) (n : Nat) (h' : Host) : Prop where
  setup : h'.setup = h.setup
  registry : h'.registry = h.registry.erase d.id
  grew : h.Grew h'
  past : ∃ drained ending, h'.past = h.past ++ drained ++
    [.unregistered d.id n, .called n (.cleanup false), .ended n (.cleanup false) ending] ∧
    ∀ w ∈ drained, ∃ d : Deed, d.IsDraining n ∧ d.Leaves w

theorem cleared_of_drained {timeoutMs settleDelayMs t₁ : Nat} {notices : List Notice}
    {r : Except HostError Unit} {h₁ : Host} {old : Descriptor}
    (hn : h.registry.get? d.id = some n) (hi : h.instance? n = some i)
    (hdrained : (drain n timeoutMs).Ends t (h.notice notices) (.ok (.ok ())) t₁ h₁)
    (hends : (replaceTaken d n old settleDelayMs).Ends t₁ (h₁.unregister t₁ d.id).2 (.ok r) u h') :
    ∃ t₂ h₂, h.Cleared d n h₂ ∧ (replaceWith d old).Ends t₂ h₂ (.ok r) u h' := by
  obtain ⟨hreg, hgrew, drained, hpast, hleft⟩ :=
    (drain_works n timeoutMs).ends (fun _ => Deed.IsDraining.sparesRegistry) hdrained
  have hn₁ : h₁.registry.get? d.id = some n := hreg ▸ hn
  have hnoted : h.Grew (h.notice notices) := h.perform_grew t (.notice notices)
  have htaken : h₁.Grew (h₁.unregister t₁ d.id).2 := h₁.perform_grew t₁ (.unregister d.id)
  have hpast₁ : (h₁.unregister t₁ d.id).2.past = h₁.past ++ [.unregistered d.id n] := by
    rw [Host.unregister_some hn₁, Host.past_happen]
    rfl
  obtain ⟨i', hi', -⟩ := (hnoted.trans (hgrew.trans htaken)).instances hi
  obtain ⟨ending, t₂, h₂, hreg₂, hgrew₂, hpast₂, hreplaced⟩ := replaceTaken_ends hi' hends
  -- The old instance is still kept after it was taken out, so it can be told to clean up.
  have hall := hnoted.trans (hgrew.trans (htaken.trans hgrew₂))
  refine ⟨t₂, h₂, ⟨hall.setup, ?_, hall, drained, ending, ?_, hleft⟩, hreplaced⟩
  · rw [hreg₂, Host.unregister_registry, hreg]
    rfl
  · rw [hpast₂, hpast₁, hpast, Host.past_notice]
    simp

namespace UpdateRun

variable {x : UpdateRun}

/-- Where the new version cannot be built, the host goes back to the old one. -/
theorem wentBack_of_cleared {t₂ t₃ v : Nat} {h₂ h₃ : Host} {e : HostError}
    (hdrained : x.Drained (.ok ())) (hcleared : x.before.Cleared x.d x.n h₂)
    (hbuild : (h₂.build t₂ x.d).1 = .ok (.error e)) (hsetup : h₃.setup = h₂.setup)
    (hreg : h₃.registry = h₂.registry)
    (hreplaced : (replaceWith x.d x.old.descriptor).Ends t₂ h₂ (.ok x.result) v x.after)
    (hback : (rollBack x.d.id x.old.descriptor e).Ends t₃ h₃ (.ok x.result) v x.after) :
    x.WentBack := by
  obtain ⟨hresult, back, t₄, h₄, t₅, h₅, henable, hsetup₄, hreg₄, hafter⟩ := rollBack_ends hback
  refine ⟨⟨t₂, h₂, e, hbuild, hcleared.setup, hresult⟩, hdrained, ?_,
    back, t₄, h₄, t₅, h₅, henable, ?_, ?_, hafter⟩
  · obtain ⟨drained, ending, hpast, hleft⟩ := hcleared.past
    obtain ⟨steps, hrun⟩ := hreplaced
    obtain ⟨rest, hpast', hleft'⟩ := (replaceWith_works x.d x.old.descriptor).past hrun
    have hhappenings : x.happenings = drained ++ [.unregistered x.d.id x.n,
        .called x.n (.cleanup false), .ended x.n (.cleanup false) ending] ++ rest := by
      refine Host.since_eq ?_
      rw [hpast', hpast]
      simp
    have hdrained : .called x.n (.cleanup false) ∉ drained :=
      Deed.called_not_left hleft Deed.IsDraining.not_cleanup
    have hrest : .called x.n (.cleanup false) ∉ rest :=
      Deed.called_not_left hleft' (by simp [Deed.IsEnabling, Deed.IsHookRun])
    simp [hhappenings, List.count_append, List.count_eq_zero_of_not_mem hdrained,
      List.count_eq_zero_of_not_mem hrest]
  · rw [hsetup₄, hsetup, hcleared.setup]
  · rw [hreg₄, hreg, hcleared.registry]

/-- What has been replaced is new. -/
theorem hasNew_of_cleared {h₂ : Host} {ending : Ending} {started : Bool}
    (hcleared : x.before.Cleared x.d x.n h₂) (hreplaced : h₂.Replaced x.d ending x.after)
    (hstarted : ending = .succeeded ↔ started = true) : x.HasNew started := by
  obtain ⟨b, context, hid, hreg, hi⟩ := hreplaced.made
  have hmake : ((Instance.ofBlueprint b (some context)).called .start ending).make =
      (Instance.ofBlueprint b (some context)).make := Instance.make_callEnded _ _ _
  refine ⟨h₂.nextInstance, _, ?_, ?_, hi, (Instance.id_eq_of_make hmake).trans hid, ?_, ?_, ?_⟩
  · -- Instances are never given up, so the next number has not been that of one before.
    cases hn : x.before.instance? h₂.nextInstance with
    | none => rfl
    | some i =>
      obtain ⟨i', hi', -⟩ := hcleared.grew.instances hn
      exact absurd (Host.instance?_lt hi') (Nat.lt_irrefl _)
  · rw [hreg, Registry.get?_insert, if_pos rfl]
  · rw [hreg, Registry.context?_insert, if_pos rfl]
    exact (congrArg (·.2.1) hmake).symm
  · cases ending with
    | succeeded => exact (hstarted.mp rfl).symm
    | failed | brokeDown =>
      cases started with
      | false => rfl
      | true => cases hstarted.mpr rfl
  · obtain ⟨drained, cleaned, hpast, hleft⟩ := hcleared.past
    obtain ⟨constructed, hooks, hpast', hnone⟩ := hreplaced.past
    have hhappenings : x.happenings = drained ++ [.unregistered x.d.id x.n,
        .called x.n (.cleanup false), .ended x.n (.cleanup false) cleaned] ++ constructed ++
        [.registered x.d.id h₂.nextInstance, .called h₂.nextInstance .start,
          .ended h₂.nextInstance .start ending] ++ hooks := by
      refine Host.since_eq ?_
      rw [hpast', hpast]
      simp
    have hdrained : .ended h₂.nextInstance .start .succeeded ∉ drained :=
      Deed.ended_not_left hleft Deed.IsDraining.not_startEnd
    obtain ⟨hconstructed, hhooks⟩ : .ended h₂.nextInstance .start .succeeded ∉ constructed ∧
        .ended h₂.nextInstance .start .succeeded ∉ hooks := by
      simpa using hnone h₂.nextInstance .succeeded
    simp [hhappenings, hdrained, hconstructed, hhooks, ← hstarted, eq_comm]

/-- An update that has ended has ended in one of the four ways. -/
theorem exists_endsAs {v : Nat} (hs : x.before.Sound)
    (hn : x.before.registry.get? x.d.id = some x.n) (hi : x.before.instance? x.n = some x.old)
    (hends : (updateRegistered x.d x.n x.old).Ends x.start x.before (.ok x.result) v x.after) :
    ∃ ending, x.EndsAs ending := by
  obtain ⟨drained, t₁, h₁, hdrained, hrest⟩ := updateRegistered_ends hends
  -- Where the drain failed nothing else is done; otherwise the old instance is out.
  obtain ⟨e, v', rfl, hresult, hhooks⟩ | ⟨rfl, htaken⟩ := hrest
  · exact ⟨.kept, kept_of_drained hdrained hresult hhooks⟩
  obtain ⟨t₂, h₂, hcleared, hreplaced⟩ := cleared_of_drained hn hi hdrained htaken
  obtain ⟨e, t₃, h₃, hbuild, hsetup, hreg, hback⟩ | ⟨ending, r, houtcome, hresult, hnew⟩ :=
    replaceWith_ends (hs.not_blank hn) hreplaced
  · exact ⟨.wentBack, wentBack_of_cleared ⟨t₁, h₁, hdrained⟩ hcleared hbuild hsetup hreg
      hreplaced hback⟩
  · cases houtcome with
    | started => exact ⟨.updated, hresult, hasNew_of_cleared hcleared hnew (by simp)⟩
    | failed => exact ⟨.notStarted, ⟨_, hresult⟩, hasNew_of_cleared hcleared hnew (by simp)⟩

end UpdateRun

/-- The message that the caller of a host was left with. -/
def CallEnd.message? : CallEnd α → Option String
  | .brokeDown message => some message
  | _ => none

end ExtensionHost
