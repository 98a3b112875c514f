import ExtensionHost.Host.Run
import ExtensionHost.Proofs.Trace

/-!
# What every task keeps

Whatever runs on a host, each of its steps leaves the host as it may be later: the
instances are still there, and what is registered reports the id it is registered
under. So that can be relied on while a program waits, whoever the others are.
-/

namespace ExtensionHost

open Program

variable {α β : Type} {t u : Nat} {h h' : Host} {steps : List (Step Host)}

/-- Every step of the program leaves the host as it may be later. -/
def Program.KeepsHost (p : HostProgram α) : Prop :=
  p.Does fun _ => Host.Later

/-! ## Steps beside the lifecycle -/

/-- A step that changes neither instances nor registrations. -/
theorem Host.Later.of_eq (hi : h'.instances = h.instances) (hr : h'.registry = h.registry) :
    h.Later h' := by
  refine .of_registered (fun {n i} hn => ⟨i, ?_, rfl⟩) fun {id n} hn => .inl ?_
  · rwa [instance?, hi]
  · rwa [hr] at hn

theorem Program.Works.keepsHost {allowed : Deed → Prop} {p : HostProgram α}
    (hw : p.Works allowed) (hspares : ∀ d, allowed d → d.SparesRegistry) : p.KeepsHost := by
  refine hw.does.mono fun {t h h'} ⟨d, hd, heq⟩ => ?_
  rw [heq]
  exact Host.perform_later (hd.elim Deed.IsQuiet.sparesRegistry (hspares d)).fits

theorem quiet_keepsHost {p : HostProgram α} (hw : p.Works fun _ => False) : p.KeepsHost :=
  hw.keepsHost fun _ => False.elim

theorem step_keepsHost {f : Host → α × Host} (hi : ∀ h, (f h).2.instances = h.instances)
    (hr : ∀ h, (f h).2.registry = h.registry) : (Program.step f : HostProgram α).KeepsHost :=
  does_act (fun _ h => .of_eq (hi h) (hr h)) does_done

theorem change_keepsHost {f : Host → Host} (hi : ∀ h, (f h).instances = h.instances)
    (hr : ∀ h, (f h).registry = h.registry) : (change f : HostProgram Unit).KeepsHost :=
  does_change fun _ h => .of_eq (hi h) (hr h)

theorem ask_keepsHost (f : Host → α) : (ask f : HostProgram α).KeepsHost :=
  does_ask fun _ h => .refl h

theorem noteAll_keepsHost (notices : List Notice) : (noteAll notices).KeepsHost :=
  quiet_keepsHost (noteAll_works notices)

theorem noteFailure_keepsHost {ε : Type} (notice : ε → Notice) (r : Except ε Unit) :
    (noteFailure notice r).KeepsHost :=
  quiet_keepsHost (noteFailure_works notice r)

theorem callInstance_keepsHost (n : Nat) (call : Call) : (callInstance n call).KeepsHost := by
  have hw : (callInstance n call).Works (Deed.IsCall (fun _ => True) fun _ => True) :=
    callInstance_isCall trivial trivial
  exact hw.keepsHost fun _ => Deed.IsCall.sparesRegistry

theorem callRegistered_keepsHost (id : String) (call : Call) (failed : String → LifecycleError) :
    (callRegistered id call failed).KeepsHost := by
  have hw : (callRegistered id call failed).Works (Deed.IsCall (fun _ => True) fun _ => True) :=
    callRegistered_works fun _ => callInstance_isCall trivial trivial
  exact hw.keepsHost fun _ => Deed.IsCall.sparesRegistry

/-! ## The four changes -/

/-- What a build gives fits what comes after it. -/
theorem build_bind_keepsHost {d : Descriptor} {k : Except HostError Nat → HostProgram α}
    (hfailed : ∀ e, (k (.error e)).KeepsHost)
    (hmade : ∀ {n i t h}, h.instance? n = some i → i.id = d.id →
      (k (.ok n)).wp (fun _ _ => True) (fun _ => Host.Later) (fun _ _ _ => True) t h) :
    ((build d).bind k).KeepsHost := by
  intro t h
  have hmakes := h.build_makes t d
  refine ⟨Host.perform_later (d := .build d) trivial, ?_⟩
  -- The number that is given and the host that has the instance belong together.
  show wp _ _ _ ((ofOutcome (h.build t d).1).bind k) t (h.build t d).2
  generalize h.build t d = made at hmakes
  cases hmakes with
  | brokeDown => exact trivial
  | failed hb => exact hfailed _ t _
  | made hb hid => exact hmade hb.instance?_next hid

/-- An instance may be registered under the id it reports. -/
theorem registerAndStart_wp {id : String} {n : Nat} {i : Instance} (hi : h.instance? n = some i)
    (hid : i.id = id) :
    (registerAndStart id n).wp (fun _ _ => True) (fun _ => Host.Later) (fun _ _ _ => True) t h := by
  have hstart : (startRegistered id).KeepsHost := callRegistered_keepsHost id .start _
  -- Nothing has happened since the build, so the instance is still there.
  refine ⟨Host.perform_later (d := .register id n) ⟨i, hi, hid⟩, ?_⟩
  dsimp only [pure_bind]
  cases (h.register t id n).1 with
  | error e => exact trivial
  | ok _ => exact hstart t _

/-- After something that fits, anything that keeps the host. -/
theorem registerAndStart_bind_wp {id : String} {n : Nat} {i : Instance}
    {k : Except LifecycleError Unit → HostProgram α} (hi : h.instance? n = some i)
    (hid : i.id = id) (hk : ∀ r, (k r).KeepsHost) :
    ((registerAndStart id n).bind k).wp (fun _ _ => True) (fun _ => Host.Later)
      (fun _ _ _ => True) t h := by
  refine wp_bind (wp_mono (registerAndStart_wp hi hid) (fun h => h) (fun h => h)
    fun {t h r} _ => ?_)
  cases r with
  | ok r => exact hk r t h
  | error message => exact trivial

theorem enable_keepsHost (d : Descriptor) : (enable d).KeepsHost := by
  unfold enable
  split
  · exact does_done _
  · exact build_bind_keepsHost (fun e => does_done _) fun hi hid =>
      registerAndStart_bind_wp hi hid fun _ => does_done _

theorem runHooks_keepsHost (id : String) (phase : CleanupPhase) :
    (runHooks id phase).KeepsHost := by
  have hw : (runHooks id phase).Works Deed.IsHookRun := runHooks_works fun _ => trivial
  exact hw.keepsHost fun _ => Deed.IsHookRun.sparesRegistry

theorem drain_keepsHost (n timeoutMs : Nat) : (drain n timeoutMs).KeepsHost :=
  (drain_works n timeoutMs).keepsHost fun _ => Deed.IsDraining.sparesRegistry

theorem unregister_keepsHost (id : String) : (unregister id).KeepsHost :=
  does_act (fun _ _ => Host.perform_later (d := .unregister id) trivial) does_done

theorem rollBack_keepsHost (id : String) (old : Descriptor) (e : HostError) :
    (rollBack id old e).KeepsHost := by
  refine does_bind (noteAll_keepsHost _) fun _ => does_bind (enable_keepsHost old) fun r => ?_
  refine does_bind (noteFailure_keepsHost _ r) fun _ => ?_
  exact does_bind (runHooks_keepsHost _ _) fun _ => does_done _

theorem replaceWith_keepsHost (d old : Descriptor) : (replaceWith d old).KeepsHost := by
  refine build_bind_keepsHost (fun e => rollBack_keepsHost d.id old e) fun hi hid => ?_
  refine registerAndStart_bind_wp hi hid fun r => ?_
  cases r <;> exact does_bind (runHooks_keepsHost _ _) fun _ => does_done _

theorem updateRegistered_keepsHost (d : Descriptor) (n : Nat) (old : Instance) :
    (updateRegistered d n old).KeepsHost := by
  refine does_bind (noteAll_keepsHost _) fun _ => does_bind (ask_keepsHost _) fun policy => ?_
  refine does_bind (drain_keepsHost n _) fun r => ?_
  cases r with
  | error e => exact does_bind (runHooks_keepsHost _ _) fun _ => does_done _
  | ok _ =>
    refine does_bind (unregister_keepsHost d.id) fun _ => ?_
    refine does_bind (callInstance_keepsHost n _) fun r => ?_
    refine does_bind (noteFailure_keepsHost _ r) fun _ => ?_
    exact does_bind (quiet_keepsHost (works_sleep _)) fun _ => replaceWith_keepsHost d _

theorem update_keepsHost (d : Descriptor) : (update d).KeepsHost := by
  refine does_bind (ask_keepsHost _) fun found => ?_
  cases found with
  | none => exact enable_keepsHost d
  | some found => exact updateRegistered_keepsHost d found.1 found.2

theorem disable_keepsHost (d : Descriptor) : (disable d).KeepsHost := by
  refine does_bind (ask_keepsHost _) fun found => ?_
  cases found with
  | none => exact does_done _
  | some n =>
    refine does_bind (ask_keepsHost _) fun timeoutMs => ?_
    exact does_bind (drain_keepsHost n timeoutMs) fun _ => does_done _

theorem remove_keepsHost (d : Descriptor) : (remove d).KeepsHost := by
  refine does_bind (ask_keepsHost _) fun found => ?_
  cases found with
  | none => exact does_done _
  | some n =>
    refine does_bind (ask_keepsHost _) fun timeoutMs => ?_
    refine does_bind (drain_keepsHost n timeoutMs) fun r => ?_
    refine does_bind (noteFailure_keepsHost _ r) fun _ => ?_
    refine does_bind (unregister_keepsHost d.id) fun _ => ?_
    exact (removeTaken_works d n).keepsHost fun _ => Deed.IsRemoving.sparesRegistry

/-- Handling an event keeps the host. -/
theorem handle_keepsHost (e : Event) : (handle e).KeepsHost := by
  unfold handle
  split
  · exact enable_keepsHost _
  · exact disable_keepsHost _
  · exact update_keepsHost _
  · exact remove_keepsHost _

theorem handleEach_keepsHost (events : List Event) (r : BatchResult) :
    (handleEach events r).KeepsHost := by
  induction events generalizing r with
  | nil => exact does_done r
  | cons e rest ih =>
    refine does_bind (handle_keepsHost e) fun result => ?_
    exact does_bind (noteFailure_keepsHost _ result) fun _ => ih _

/-! ## Jobs -/

theorem pollOnce_works : pollOnce.Works fun _ => True :=
  works_bind (works_act (fun _ h => ⟨.notice h.reconcile.2, .inr trivial, rfl⟩) works_done)
    fun events => handleEach_works events .empty

theorem pollOnce_keepsHost : pollOnce.KeepsHost :=
  does_bind (step_keepsHost (fun _ => rfl) fun _ => rfl) fun events =>
    handleEach_keepsHost events .empty

theorem Host.watchTurn_later (h : Host) (now due : Nat) : h.Later (h.watchTurn now due).2 := by
  obtain ⟨told, ties, heq⟩ := h.watchTurn_snd now due
  rw [heq]
  exact .of_eq rfl rfl

theorem watchTick_keepsHost (due : Nat) : (watchTick due).KeepsHost := by
  refine does_wait (does_act (fun now h => h.watchTurn_later now due) fun turn => ?_)
  cases turn with
  | told => exact does_done _
  | tick next =>
    refine does_bind pollOnce_keepsHost fun _ => does_bind (ask_keepsHost _) fun running => ?_
    cases running with
    -- It goes on as another job, which keeps the host for itself.
    | true => exact fun _ _ => trivial
    | false => exact does_done _

theorem watchJob_keepsHost (nextTick : Option Nat) : (watchJob nextTick).KeepsHost := by
  cases nextTick with
  | some due => exact watchTick_keepsHost due
  | none =>
    refine does_bind (quiet_keepsHost works_now) fun start => ?_
    refine does_bind (ask_keepsHost _) fun interval => does_bind (ask_keepsHost _) fun running => ?_
    cases running with
    | true => exact watchTick_keepsHost _
    | false => exact does_done _

/-- Every step of every job leaves the host as it may be later. -/
theorem Job.program_keepsHost (job : Job) : job.program.KeepsHost := by
  cases job with
  | handle event => exact handle_keepsHost event
  | drain n timeoutMs => exact does_bind (drain_keepsHost n timeoutMs) fun _ => does_done _
  | stop id =>
    exact does_bind (callRegistered_keepsHost id .stop _) fun _ => does_done _
  | watch nextTick => exact watchJob_keepsHost nextTick

end ExtensionHost
