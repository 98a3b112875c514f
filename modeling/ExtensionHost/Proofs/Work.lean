import ExtensionHost.Proofs.Deed
import ExtensionHost.Proofs.Undisturbed

/-!
# The work of lifecycle programs

Which deeds each of the lifecycle programs does. None of them waits for anything
but the time and calls of foreign code, so each comes to an end if it is not
disturbed and these calls return or break down. A program breaks down only where
a call of foreign code does.
-/

namespace ExtensionHost

open Program

/-! ## Allowed deeds -/

/-- Whether a deed does nothing, or takes note of something. -/
def Deed.IsQuiet : Deed → Prop
  | .nothing | .notice _ => True
  | _ => False

theorem Deed.IsQuiet.not_leaves {d : Deed} {w : Happening} (hd : d.IsQuiet) : ¬ d.Leaves w := by
  cases d <;> first | exact id | exact hd.elim

theorem Deed.IsQuiet.sparesRegistry {d : Deed} (hd : d.IsQuiet) : d.SparesRegistry := by
  cases d <;> trivial

theorem Deed.SparesRegistry.fits {d : Deed} {h : Host} (hd : d.SparesRegistry) : d.Fits h := by
  cases d <;> trivial

/-- The host has changed by a quiet deed or by one that is allowed. -/
def Host.Did (allowed : Deed → Prop) (now : Nat) (h h' : Host) : Prop :=
  ∃ d, (d.IsQuiet ∨ allowed d) ∧ h' = h.perform now d

theorem Host.did_nothing {allowed : Deed → Prop} {now : Nat} {h : Host} :
    Host.Did allowed now h h :=
  ⟨.nothing, .inl trivial, rfl⟩

/-- The program waits for nothing but the time, and does only what is allowed. -/
structure Program.Works {α : Type} (allowed : Deed → Prop) (p : HostProgram α) : Prop where
  timed : p.IsTimed
  does : p.Does (Host.Did allowed)

variable {α β : Type} {allowed allowed' : Deed → Prop}

theorem works_done (a : α) : (done a : HostProgram α).Works allowed :=
  ⟨trivial, does_done a⟩

theorem works_breakDown (message : String) : (breakDown message : HostProgram α).Works allowed :=
  ⟨trivial, does_breakDown message⟩

theorem works_ofOutcome (r : Except String α) : (ofOutcome r : HostProgram α).Works allowed := by
  cases r with
  | ok a => exact works_done a
  | error message => exact works_breakDown message

theorem works_bind {p : HostProgram α} {k : α → HostProgram β} (hp : p.Works allowed)
    (hk : ∀ a, (k a).Works allowed) : (p.bind k).Works allowed :=
  ⟨isTimed_bind hp.timed fun a => (hk a).timed, does_bind hp.does fun a => (hk a).does⟩

/-- A step is some allowed deed. -/
theorem works_act {step : Nat → Host → β × Host} {next : β → HostProgram α}
    (hstep : ∀ now h, Host.Did allowed now h (step now h).2)
    (hnext : ∀ b, (next b).Works allowed) : (act step next).Works allowed :=
  ⟨fun b => (hnext b).timed, does_act hstep fun b => (hnext b).does⟩

theorem works_ask (f : Host → α) : (ask f : HostProgram α).Works allowed :=
  works_act (fun _ _ => Host.did_nothing) works_done

theorem works_now : (now : HostProgram Nat).Works allowed :=
  works_act (fun _ _ => Host.did_nothing) works_done

theorem works_sleep (ms : Nat) : (sleep ms : HostProgram Unit).Works allowed :=
  ⟨isTimed_sleep ms, does_sleep fun _ _ => Host.did_nothing⟩

theorem works_forEach {f : α → HostProgram Unit} (h : ∀ a, (f a).Works allowed) (as : List α) :
    (forEach f as).Works allowed :=
  ⟨isTimed_forEach (fun a => (h a).timed) as, does_forEach (fun a => (h a).does) as⟩

/-- A change that is a deed. -/
theorem works_deed {f : Nat → Host → Host} {d : Deed} (hd : d.IsQuiet ∨ allowed d)
    (hf : ∀ now h, f now h = h.perform now d) : (changeAt f : HostProgram Unit).Works allowed :=
  works_act (fun now h => ⟨d, hd, hf now h⟩) works_done

theorem Program.Works.mono {p : HostProgram α} (h : p.Works allowed)
    (hle : ∀ d, allowed d → allowed' d) : p.Works allowed' :=
  ⟨h.timed, h.does.mono fun ⟨d, hd, he⟩ => ⟨d, hd.imp_right (hle d), he⟩⟩

/-! ## Calls -/

/-- Whether a deed is the begin or the end of a call of an instance. -/
def Deed.IsCall (ofNumber : Nat → Prop) (ofKind : Call → Prop) : Deed → Prop
  | .beginCall number call | .endCall number call _ => ofNumber number ∧ ofKind call
  | _ => False

theorem Deed.IsCall.sparesRegistry {ofNumber : Nat → Prop} {ofKind : Call → Prop} {d : Deed}
    (hd : d.IsCall ofNumber ofKind) : d.SparesRegistry := by
  cases d <;> trivial

/-- Whether a deed is the run of a cleanup hook. -/
def Deed.IsHookRun : Deed → Prop
  | .runHook _ _ _ => True
  | _ => False

theorem Deed.IsHookRun.sparesRegistry {d : Deed} (hd : d.IsHookRun) : d.SparesRegistry := by
  cases d <;> trivial

theorem noteAll_works (notices : List Notice) : (noteAll notices).Works allowed :=
  works_act (fun _ _ => ⟨.notice notices, .inl trivial, rfl⟩) works_done

theorem noteFailure_works {ε : Type} (notice : ε → Notice) (r : Except ε Unit) :
    (noteFailure notice r).Works allowed := by
  cases r with
  | ok _ => exact works_done ()
  | error e => exact noteAll_works _

theorem result_works (ending : Ending) : (ending.result).Works allowed := by
  cases ending with
  | succeeded => exact works_done _
  | failed e => exact works_done _
  | brokeDown message => exact works_breakDown message

theorem wait_works (r : Response) : r.wait.Works allowed :=
  works_bind (works_sleep _) fun _ => result_works _

theorem callInstance_works {n : Nat} {call : Call} (hbegin : allowed (.beginCall n call))
    (hend : ∀ ending, allowed (.endCall n call ending)) :
    (callInstance n call).Works allowed := by
  refine works_act (fun _ _ => ⟨.beginCall n call, .inr hbegin, rfl⟩) fun response => ?_
  refine works_bind (works_sleep _) fun _ => works_bind ?_ fun _ => result_works _
  exact works_deed (.inr (hend response.ending)) fun _ _ => rfl

/-- A call is nothing but its begin and its end. -/
theorem callInstance_isCall {ofNumber : Nat → Prop} {ofKind : Call → Prop} {n : Nat} {call : Call}
    (hn : ofNumber n) (hcall : ofKind call) :
    (callInstance n call).Works (Deed.IsCall ofNumber ofKind) :=
  callInstance_works ⟨hn, hcall⟩ fun _ => ⟨hn, hcall⟩

theorem callGateway_works {family : ProtocolFamily} (g : Gateway) {id : String}
    {call : GatewayCall} (h : allowed (.callGateway family id call)) :
    (callGateway family g id call).Works allowed :=
  works_bind (works_deed (.inr h) fun _ _ => rfl) fun _ => wait_works _

theorem runHooks_works {id : String} {phase : CleanupPhase}
    (h : ∀ hook, allowed (.runHook hook id phase)) : (runHooks id phase).Works allowed := by
  refine works_bind (works_ask _) fun hooks => works_forEach (fun hook => ?_) hooks
  refine works_bind (works_deed (.inr (h hook.name)) fun _ _ => rfl) fun _ => ?_
  exact works_bind (wait_works _) fun _ => noteFailure_works _ _

theorem callRegistered_works {id : String} {call : Call} {failed : String → LifecycleError}
    (h : ∀ n, (callInstance n call).Works allowed) :
    (callRegistered id call failed).Works allowed := by
  refine works_bind (works_ask _) fun found => ?_
  cases found with
  | none => exact works_done _
  | some n =>
    refine works_bind (h n) fun r => ?_
    cases r <;> exact works_done _

/-! ## Draining -/

/-- What is done to an instance until it is quiet: calls of its shutdown hooks, its
being disabled, and calls of the gateway. -/
def Deed.IsQuieting (n : Nat) : Deed → Prop
  | .beginCall m call | .endCall m call _ => m = n ∧ (call = .prepare ∨ call = .closeConnections)
  | .switch m enabled => m = n ∧ enabled = false
  | .callGateway _ _ _ => True
  | _ => False

/-- What a drain of an instance does: it makes the instance quiet, and calls stop. -/
def Deed.IsDraining (n : Nat) (d : Deed) : Prop :=
  d.IsQuieting n ∨ d.IsCall (fun _ => True) (· = .stop)

/-- Gives the pending requests of an instance that has statistics time to be
answered. -/
def settle (i : Instance) (number timeoutMs : Nat) : HostProgram Unit :=
  if i.conduct.hasStatistics then drainPending i.id number timeoutMs else .done ()

theorem Deed.IsQuieting.sparesRegistry {n : Nat} {d : Deed} (hd : d.IsQuieting n) :
    d.SparesRegistry := by
  cases d <;> trivial

theorem Deed.IsDraining.sparesRegistry {n : Nat} {d : Deed} (hd : d.IsDraining n) :
    d.SparesRegistry :=
  hd.elim IsQuieting.sparesRegistry IsCall.sparesRegistry

/-- No drain tells an instance to clean up. -/
theorem Deed.IsDraining.not_cleanup {n m : Nat} {removed : Bool} :
    ¬ Deed.IsDraining n (.beginCall m (.cleanup removed)) := by
  simp [IsDraining, IsQuieting, IsCall]

/-- No drain starts an instance. -/
theorem Deed.IsDraining.not_startEnd {n m : Nat} {ending : Ending} :
    ¬ Deed.IsDraining n (.endCall m .start ending) := by
  simp [IsDraining, IsQuieting, IsCall]

/-- Everything a drain does before it stops the instance. -/
def quiet (i : Instance) (number timeoutMs : Nat) : HostProgram Unit := do
  callShutdownHook i number .prepare "prepare_for_shutdown"
  Program.changeAt fun now h => h.switch now number false
  let gateway ← Program.ask (·.gatewayFor? i.id)
  callGatewayIfAny i.id gateway .stopAccepting (.gatewayStopFailed i.id)
  settle i number timeoutMs
  callShutdownHook i number .closeConnections "close_all_connections"
  callGatewayIfAny i.id gateway .closeConnections (.gatewayCloseFailed i.id)

/-- A drain makes the instance quiet, and then stops what is registered. -/
theorem drainInstance_eq (i : Instance) (n timeoutMs : Nat) :
    drainInstance i n timeoutMs = (quiet i n timeoutMs).bind fun _ => stopWithRetry i.id n := by
  cases hs : i.conduct.hasStatistics <;> simp [drainInstance, quiet, settle, hs]

theorem callShutdownHook_works {i : Instance} {n : Nat} {call : Call} {name : String}
    (h : (callInstance n call).Works allowed) : (callShutdownHook i n call name).Works allowed := by
  unfold callShutdownHook
  split
  · exact works_bind h fun r => noteFailure_works _ r
  · exact works_done ()

theorem callGatewayIfAny_works {id : String} (gateway : Option (ProtocolFamily × Gateway))
    {call : GatewayCall} {notice : ErrorChain → Notice}
    (h : ∀ family, allowed (.callGateway family id call)) :
    (callGatewayIfAny id gateway call notice).Works allowed := by
  cases gateway with
  | none => exact works_done ()
  | some g => exact works_bind (callGateway_works g.2 (h g.1)) fun r => noteFailure_works _ r

theorem waitForPending_works (n interval deadline looks : Nat) :
    (waitForPending n interval deadline looks).Works allowed := by
  induction looks with
  | zero => exact works_done 0
  | succ looks ih =>
    refine works_act (fun _ _ => Host.did_nothing) fun look => ?_
    cases look with
    | answered => exact works_done _
    | late pending => exact works_done _
    | again time =>
      -- It sleeps until the next look, and waits for nothing else.
      have hsleep : (sleepUntil time : HostProgram Unit).Works allowed :=
        ⟨⟨rfl, trivial⟩, does_sleepUntil time⟩
      exact works_bind hsleep fun _ => ih

theorem drainPending_works (id : String) (n timeoutMs : Nat) :
    (drainPending id n timeoutMs).Works allowed := by
  refine works_bind (works_ask _) fun interval => works_bind works_now fun start => ?_
  refine works_bind (waitForPending_works _ _ _ _) fun left => ?_
  split
  · exact works_done ()
  · exact noteAll_works _

theorem settle_works (i : Instance) (n timeoutMs : Nat) :
    (settle i n timeoutMs).Works allowed := by
  unfold settle
  split
  · exact drainPending_works _ _ _
  · exact works_done ()

theorem quiet_works (i : Instance) (n timeoutMs : Nat) :
    (quiet i n timeoutMs).Works (Deed.IsQuieting n) := by
  -- The two shutdown hooks are all that is called, and both are the instance's own.
  have hcall {call : Call} (hc : call = .prepare ∨ call = .closeConnections) :
      (callInstance n call).Works (Deed.IsQuieting n) :=
    callInstance_works ⟨rfl, hc⟩ fun _ => ⟨rfl, hc⟩
  have hswitch : (changeAt fun now h => h.switch now n false : HostProgram Unit).Works
      (Deed.IsQuieting n) := works_deed (d := .switch n false) (.inr ⟨rfl, rfl⟩) fun _ _ => rfl
  refine works_bind (callShutdownHook_works (hcall (.inl rfl))) fun _ => ?_
  refine works_bind hswitch fun _ => works_bind (works_ask _) fun gateway => ?_
  refine works_bind (callGatewayIfAny_works gateway fun _ => trivial) fun _ => ?_
  refine works_bind (settle_works i n timeoutMs) fun _ => ?_
  refine works_bind (callShutdownHook_works (hcall (.inr rfl))) fun _ => ?_
  exact callGatewayIfAny_works gateway fun _ => trivial

theorem stopWithRetry_works (id : String) (n : Nat) :
    (stopWithRetry id n).Works (Deed.IsCall (fun _ => True) (· = .stop)) := by
  have hstop : ∀ m, (callInstance m .stop).Works (Deed.IsCall (fun _ => True) (· = .stop)) :=
    fun m => callInstance_isCall trivial rfl
  refine works_bind (callRegistered_works hstop) fun r => ?_
  cases r with
  | ok _ => exact works_done _
  | error first =>
    refine works_bind (noteAll_works _) fun _ => works_bind (hstop n) fun r => ?_
    cases r <;> exact works_done _

theorem drain_works (n timeoutMs : Nat) : (drain n timeoutMs).Works (Deed.IsDraining n) := by
  refine works_bind (works_ask _) fun found => ?_
  cases found with
  | none => exact works_done _
  | some i =>
    show (drainInstance i n timeoutMs).Works _
    rw [drainInstance_eq]
    exact works_bind ((quiet_works i n timeoutMs).mono fun _ => .inl) fun _ =>
      (stopWithRetry_works i.id n).mono fun _ => .inr

/-! ## The four changes -/

/-- What enabling an extension does: it builds, registers under the id, and calls
start. -/
def Deed.IsEnabling (d : Descriptor) : Deed → Prop
  | .build d' => d' = d
  | .register id _ => id = d.id
  | .beginCall _ call | .endCall _ call _ => call = .start
  | _ => False

theorem build_works {d : Descriptor} (h : allowed (.build d)) : (build d).Works allowed :=
  works_act (fun _ _ => ⟨.build d, .inr h, rfl⟩) works_ofOutcome

theorem register_works {id : String} {n : Nat} (h : allowed (.register id n)) :
    (register id n).Works allowed :=
  works_act (fun _ _ => ⟨.register id n, .inr h, rfl⟩) works_done

theorem unregister_works {id : String} (h : allowed (.unregister id)) :
    (unregister id).Works allowed :=
  works_act (fun _ _ => ⟨.unregister id, .inr h, rfl⟩) works_done

theorem startRegistered_works (id : String) :
    (startRegistered id).Works (Deed.IsCall (fun _ => True) (· = .start)) :=
  callRegistered_works fun _ => callInstance_isCall trivial rfl

theorem Deed.IsCall.isEnabling {d : Descriptor} {ofNumber : Nat → Prop} {x : Deed}
    (hx : x.IsCall ofNumber (· = .start)) : x.IsEnabling d := by
  cases x <;> first | exact hx.2 | exact hx.elim

theorem registerAndStart_works (d : Descriptor) (n : Nat) :
    (registerAndStart d.id n).Works (Deed.IsEnabling d) := by
  refine works_bind (register_works rfl) fun r => ?_
  cases r with
  | error e => exact works_done _
  | ok _ => exact (startRegistered_works d.id).mono fun _ => Deed.IsCall.isEnabling

theorem enable_works (d : Descriptor) : (enable d).Works (Deed.IsEnabling d) := by
  unfold enable
  split
  · exact works_done _
  · refine works_bind (build_works rfl) fun r => ?_
    cases r with
    | error e => exact works_done _
    | ok n => exact works_bind (registerAndStart_works d n) fun _ => works_done _

theorem disable_works (d : Descriptor) :
    (disable d).Works fun x => ∃ n, x.IsDraining n := by
  refine works_bind (works_ask _) fun found => ?_
  cases found with
  | none => exact works_done _
  | some n =>
    refine works_bind (works_ask _) fun timeoutMs => works_bind ?_ fun _ => works_done _
    exact (drain_works n timeoutMs).mono fun _ h => ⟨n, h⟩

theorem rollBack_works (id : String) (old : Descriptor) (e : HostError) :
    (rollBack id old e).Works fun x => x.IsEnabling old ∨ x.IsHookRun := by
  refine works_bind (noteAll_works _) fun _ => ?_
  refine works_bind ((enable_works old).mono fun _ => .inl) fun r => ?_
  refine works_bind (noteFailure_works _ r) fun _ => works_bind ?_ fun _ => works_done _
  exact runHooks_works fun _ => .inr trivial

theorem replaceWith_works (d old : Descriptor) :
    (replaceWith d old).Works fun x => x.IsEnabling d ∨ x.IsEnabling old ∨ x.IsHookRun := by
  have hhooks {phase : CleanupPhase} : (runHooks d.id phase).Works
      fun x => x.IsEnabling d ∨ x.IsEnabling old ∨ x.IsHookRun :=
    runHooks_works fun _ => .inr (.inr trivial)
  refine works_bind (build_works (.inl rfl)) fun r => ?_
  cases r with
  | error e => exact (rollBack_works d.id old e).mono fun _ => .inr
  | ok n =>
    refine works_bind ((registerAndStart_works d n).mono fun _ => .inl) fun r => ?_
    cases r <;> exact works_bind hhooks fun _ => works_done _

/-- What an update does once the old instance has been taken out. -/
def Deed.IsReplacing (d old : Descriptor) (n : Nat) (x : Deed) : Prop :=
  x.IsCall (· = n) (· = .cleanup false) ∨ x.IsEnabling d ∨ x.IsEnabling old ∨ x.IsHookRun

/-- The end of an update, once the old instance has been taken out. -/
def replaceTaken (d : Descriptor) (n : Nat) (old : Descriptor) (settleDelayMs : Nat) :
    HostProgram (Except HostError Unit) := do
  let cleaned ← callInstance n (.cleanup false)
  noteFailure (.previousCleanupFailed d.id) cleaned
  Program.sleep settleDelayMs
  replaceWith d old

theorem replaceTaken_works (d : Descriptor) (n : Nat) (old : Descriptor) (settleDelayMs : Nat) :
    (replaceTaken d n old settleDelayMs).Works (Deed.IsReplacing d old n) := by
  refine works_bind (callInstance_works (.inl ⟨rfl, rfl⟩) fun _ => .inl ⟨rfl, rfl⟩) fun r => ?_
  refine works_bind (noteFailure_works _ r) fun _ => works_bind (works_sleep _) fun _ => ?_
  exact (replaceWith_works d old).mono fun _ => .inr

/-- What a removal does once the instance has been taken out. -/
def Deed.IsRemoving (n : Nat) (x : Deed) : Prop :=
  x.IsCall (· = n) (· = .cleanup true) ∨ x.IsHookRun

theorem Deed.IsRemoving.sparesRegistry {n : Nat} {d : Deed} (hd : d.IsRemoving n) :
    d.SparesRegistry :=
  hd.elim IsCall.sparesRegistry IsHookRun.sparesRegistry

/-- The end of a removal, once the instance has been taken out. -/
def removeTaken (d : Descriptor) (n : Nat) : HostProgram (Except HostError Unit) := do
  let cleaned ← callInstance n (.cleanup true)
  noteFailure (.cleanupFailed d.id) cleaned
  runHooks d.id .removed
  return .ok ()

theorem removeTaken_works (d : Descriptor) (n : Nat) :
    (removeTaken d n).Works (Deed.IsRemoving n) := by
  refine works_bind (callInstance_works (.inl ⟨rfl, rfl⟩) fun _ => .inl ⟨rfl, rfl⟩) fun r => ?_
  refine works_bind (noteFailure_works _ r) fun _ => works_bind ?_ fun _ => works_done _
  exact runHooks_works fun _ => .inr trivial

/-- What an update does that replaces an instance. -/
def Deed.IsUpdating (d old : Descriptor) (n : Nat) (x : Deed) : Prop :=
  x.IsDraining n ∨ x = .unregister d.id ∨ x.IsReplacing d old n

theorem updateRegistered_works (d : Descriptor) (n : Nat) (old : Instance) :
    (updateRegistered d n old).Works (Deed.IsUpdating d old.descriptor n) := by
  refine works_bind (noteAll_works _) fun _ => works_bind (works_ask _) fun policy => ?_
  refine works_bind ((drain_works n _).mono fun _ => .inl) fun r => ?_
  cases r with
  | error e =>
    refine works_bind (runHooks_works fun _ => ?_) fun _ => works_done _
    exact .inr (.inr (.inr (.inr (.inr trivial))))
  | ok _ =>
    -- From here on nothing is registered until the new version is.
    refine works_bind (unregister_works (.inr (.inl rfl))) fun _ => ?_
    exact (replaceTaken_works d n old.descriptor _).mono fun _ h => .inr (.inr h)

theorem update_works (d : Descriptor) :
    (update d).Works fun x => x.IsEnabling d ∨ ∃ n old, x.IsUpdating d old n := by
  refine works_bind (works_ask _) fun found => ?_
  cases found with
  | none => exact (enable_works d).mono fun _ => .inl
  | some found => exact (updateRegistered_works d found.1 found.2).mono fun _ h => .inr ⟨_, _, h⟩

theorem remove_works (d : Descriptor) :
    (remove d).Works fun x => x = .unregister d.id ∨ ∃ n, x.IsDraining n ∨ x.IsRemoving n := by
  refine works_bind (works_ask _) fun found => ?_
  cases found with
  | none => exact works_done _
  | some n =>
    refine works_bind (works_ask _) fun timeoutMs => ?_
    refine works_bind ((drain_works n timeoutMs).mono fun _ h => .inr ⟨n, .inl h⟩) fun r => ?_
    refine works_bind (noteFailure_works _ r) fun _ => ?_
    refine works_bind (unregister_works (.inl rfl)) fun _ => ?_
    exact (removeTaken_works d n).mono fun _ h => .inr ⟨n, .inr h⟩

/-- What handling an event does. -/
def Deed.IsHandling (d : Descriptor) : Change → Deed → Prop
  | .enable, x => x.IsEnabling d
  | .disable, x => ∃ n, x.IsDraining n
  | .update, x => x.IsEnabling d ∨ ∃ n old, x.IsUpdating d old n
  | .remove, x => x = .unregister d.id ∨ ∃ n, x.IsDraining n ∨ x.IsRemoving n

theorem handle_works (e : Event) : (handle e).Works (Deed.IsHandling e.descriptor e.change) := by
  unfold handle
  cases e.change with
  | enable => exact enable_works e.descriptor
  | disable => exact disable_works e.descriptor
  | update => exact update_works e.descriptor
  | remove => exact remove_works e.descriptor

/-- Handling events one after another is nothing but deeds. -/
theorem handleEach_works (events : List Event) (r : BatchResult) :
    (handleEach events r).Works fun _ => True := by
  induction events generalizing r with
  | nil => exact works_done r
  | cons e rest ih =>
    apply works_bind ((handle_works e).mono fun _ _ => trivial)
    intro result
    exact works_bind (noteFailure_works _ result) fun _ => ih _

/-- A batch comes to an end if every call of foreign code returns or breaks down. -/
theorem handleBatch_ends (events : List Event) (t : Nat) (h : Host) :
    ∃ o u h', (handleBatch events).Ends t h o u h' := by
  obtain ⟨o, hends⟩ := (handleEach_works events .empty).timed.alone_ends t h
  exact ⟨o, _, _, hends⟩

end ExtensionHost
