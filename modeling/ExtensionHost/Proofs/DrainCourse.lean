import ExtensionHost.Proofs.BreakDown
import ExtensionHost.Proofs.StopTarget

/-!
# The course of a drain

A drain goes through its steps in one order, whatever the instance and the gateway
answer and however the pending requests come and go: only what is not there is left
out. The instance is stopped at the end, a second time if the first did not succeed,
and these stops alone decide how the drain ends.
-/

namespace ExtensionHost

open Program

variable {α β : Type} {others : Host → Host → Prop} {t u n T : Nat} {h h' : Host}
variable {steps xs ys : List (Step Host)} {ok : Response → Prop} {i j : Instance}

/-! ## What a drain meets -/

/-- The calls of an instance that a drain makes. -/
def Call.IsOfDrain : Call → Prop
  | .prepare | .closeConnections | .stop => True
  | .start | .cleanup _ => False

/-- Whether an answer is a result and not a break-down. -/
def Response.IsResult (r : Response) : Prop :=
  ∀ message, r.ending ≠ .brokeDown message

/-- What a drain of the instance meets: the instance is there under its number, as it was
made, it is what is registered under its id, and it and the gateways answer as `ok` has it. -/
structure Host.Offers (ok : Response → Prop) (n : Nat) (i : Instance) (h : Host) : Prop where
  there : ∃ j, h.instance? n = some j ∧ j.make = i.make
  registered : h.registry.get? i.id = some n
  calls : ∀ call : Call, call.IsOfDrain → ∀ k, ok (i.conduct.respond call k)
  gateways : ∀ g ∈ h.gateways, ∀ call, ok (g.2.respond i.id call)

/-- The others leave to the drain what it meets. -/
def Host.StillOffers (ok : Response → Prop) (n : Nat) (i : Instance) (h h' : Host) : Prop :=
  h.Offers ok n i → h'.Offers ok n i

theorem Host.StillOffers.covers : Covers (Host.StillOffers ok n i) (Host.StillOffers ok n i) :=
  ⟨fun _ => id, fun hab hbc ho => hbc (hab ho), id⟩

theorem Host.perform_offers {now : Nat} {d : Deed} (hd : d.SparesRegistry)
    (ho : h.Offers ok n i) : (h.perform now d).Offers ok n i where
  there := by
    obtain ⟨j, hj, hmake⟩ := ho.there
    obtain ⟨j', hj', hmake'⟩ := (h.perform_grew now d).instances hj
    exact ⟨j', hj', hmake'.trans hmake⟩
  registered := by
    rw [perform_registry hd]
    exact ho.registered
  calls := ho.calls
  gateways := by
    have hgateways : (h.perform now d).gateways = h.gateways :=
      congrArg Setup.gateways (h.perform_grew now d).setup
    rw [hgateways]
    exact ho.gateways

/-- A drain takes nothing of what it meets away. -/
theorem Program.Works.offers {allowed : Deed → Prop} {p q : HostProgram α}
    (hw : p.Works allowed) (hspares : ∀ d, allowed d → d.SparesRegistry)
    (hrun : p.Run (Host.StillOffers ok n i) t h steps q u h') (ho : h.Offers ok n i) :
    h'.Offers ok n i := by
  refine hrun.chain (R := Host.StillOffers ok n i) (fun _ => id) (fun hab hbc ho => hbc (hab ho))
    (fun x hx => ?_) ho
  cases hown : x.own with
  | false => exact hrun.of_others x hx hown
  | true =>
    obtain ⟨d, hd, hafter⟩ := hw.does.own hrun x hx hown
    rw [hafter]
    exact Host.perform_offers (hd.elim Deed.IsQuiet.sparesRegistry (hspares d))

/-- What an instance was made as decides what its drain does. -/
theorem drainInstance_congr (hmake : j.make = i.make) :
    drainInstance j n T = drainInstance i n T := by
  have hid : j.id = i.id := Instance.id_eq_of_make hmake
  have hconduct : j.conduct = i.conduct := congrArg (·.2.2) hmake
  simp only [drainInstance, callShutdownHook, hid, hconduct]

/-! ## The parts of a drain -/

/-- A drain until it waits for the pending requests. It asks for the gateway once. -/
def openDrain (i : Instance) (n : Nat) : HostProgram (Option (ProtocolFamily × Gateway)) := do
  callShutdownHook i n .prepare "prepare_for_shutdown"
  Program.changeAt fun now h => h.switch now n false
  let gateway ← Program.ask (·.gatewayFor? i.id)
  callGatewayIfAny i.id gateway .stopAccepting (.gatewayStopFailed i.id)
  return gateway

/-- A drain from when it has waited for the pending requests. -/
def closeDrain (i : Instance) (n : Nat) (gateway : Option (ProtocolFamily × Gateway)) :
    HostProgram (Except LifecycleError Unit) := do
  callShutdownHook i n .closeConnections "close_all_connections"
  callGatewayIfAny i.id gateway .closeConnections (.gatewayCloseFailed i.id)
  stopWithRetry i.id n

/-- A drain opens, lets the pending requests settle, and closes. -/
theorem drainInstance_parts (i : Instance) (n T : Nat) :
    drainInstance i n T = (openDrain i n).bind fun gateway =>
      (settle i n T).bind fun _ => closeDrain i n gateway := by
  cases hs : i.conduct.hasStatistics <;>
    simp [drainInstance, openDrain, closeDrain, settle, hs]

theorem openDrain_works (i : Instance) (n : Nat) :
    (openDrain i n).Works (Deed.IsQuieting n) := by
  have hprepare : (callInstance n .prepare).Works (Deed.IsQuieting n) :=
    callInstance_works ⟨rfl, .inl rfl⟩ fun _ => ⟨rfl, .inl rfl⟩
  have hswitch : (changeAt fun now h => h.switch now n false : HostProgram Unit).Works
      (Deed.IsQuieting n) := works_deed (d := .switch n false) (.inr ⟨rfl, rfl⟩) fun _ _ => rfl
  refine works_bind (callShutdownHook_works hprepare) fun _ => works_bind hswitch fun _ => ?_
  refine works_bind (works_ask _) fun gateway => ?_
  exact works_bind (callGatewayIfAny_works gateway fun _ => trivial) fun _ => works_done _

theorem closeDrain_works (i : Instance) (n : Nat) (gateway : Option (ProtocolFamily × Gateway)) :
    (closeDrain i n gateway).Works (Deed.IsDraining n) := by
  have hclose : (callInstance n .closeConnections).Works (Deed.IsDraining n) :=
    callInstance_works (.inl ⟨rfl, .inr rfl⟩) fun _ => .inl ⟨rfl, .inr rfl⟩
  refine works_bind (callShutdownHook_works hclose) fun _ => ?_
  refine works_bind (callGatewayIfAny_works gateway fun _ => .inl trivial) fun _ => ?_
  exact (stopWithRetry_works i.id n).mono fun _ => .inr

/-! ## The wait for pending requests -/

/-- A program that waits now does so until a time at the latest. -/
def Program.WaitsBy {σ ι : Type} (time : Nat) : Program σ ι α → Prop
  | wait _ deadline _ => deadline.any (· ≤ time) = true
  | _ => True

theorem waitsBy_bind {σ ι : Type} {time : Nat} {p : Program σ ι α} {k : α → Program σ ι β}
    (hp : p.WaitsBy time) (hne : ∀ a, p ≠ done a) : (p.bind k).WaitsBy time := by
  cases p with
  | done a => exact absurd rfl (hne a)
  | wait => exact hp
  | _ => exact trivial

/-- The next look comes later than this one, after one interval at most and not after the
deadline. -/
theorem lookAtPending_again {interval deadline now pending time : Nat}
    (hlook : lookAtPending interval deadline now pending = .again time) :
    pending ≠ 0 ∧ now < time ∧ time ≤ deadline ∧ time ≤ now + max interval 1 := by
  unfold lookAtPending at hlook
  split at hlook
  · cases hlook
  split at hlook
  · cases hlook
  next hpending hnow =>
    cases hlook
    exact ⟨hpending, by omega, by omega, by omega⟩

theorem lookAtPending_late {interval deadline now pending left : Nat}
    (hlook : lookAtPending interval deadline now pending = .late left) :
    left = pending ∧ deadline ≤ now := by
  unfold lookAtPending at hlook
  split at hlook
  · cases hlook
  split at hlook
  · cases hlook
    exact ⟨rfl, ‹_›⟩
  · cases hlook

theorem lookAtPending_answered {interval deadline now pending : Nat}
    (hlook : lookAtPending interval deadline now pending = .answered) : pending = 0 := by
  unfold lookAtPending at hlook
  split at hlook
  · assumption
  split at hlook <;> cases hlook

/-- Looking at the pending requests goes on until there are none, or until the deadline. -/
theorem waitForPending_run {interval deadline looks : Nat} {q : HostProgram Nat}
    (hlooks : deadline < t + looks)
    (hrun : (waitForPending n interval deadline looks).Run others t h steps q u h') :
    q.WaitsBy deadline ∧ ∀ left, q = done left → h'.pendingOf u n = 0 ∨ deadline ≤ u := by
  induction looks generalizing t h steps with
  | zero =>
    obtain ⟨-, rfl, rfl, -⟩ := hrun.of_done
    exact ⟨trivial, fun _ _ => .inr (Nat.le_of_lt hlooks)⟩
  | succ looks ih =>
    obtain ⟨-, rfl, -⟩ | ⟨rest, -, hrest⟩ := hrun.of_act
    · exact ⟨trivial, nofun⟩
    cases hlook : lookAtPending interval deadline t (h.pendingOf t n) with
    | answered =>
      rw [hlook] at hrest
      obtain ⟨-, rfl, rfl, rfl⟩ := hrest.of_done
      exact ⟨trivial, fun _ _ => .inl (lookAtPending_answered hlook)⟩
    | late pending =>
      rw [hlook] at hrest
      obtain ⟨-, rfl, rfl, rfl⟩ := hrest.of_done
      exact ⟨trivial, fun _ _ => .inr (lookAtPending_late hlook).2⟩
    | again time =>
      rw [hlook] at hrest
      obtain ⟨-, hlater, htime, -⟩ := lookAtPending_again hlook
      cases hrest with
      | rest => exact ⟨decide_eq_true htime, nofun⟩
      | waits => exact ⟨decide_eq_true htime, nofun⟩
      | wakes hm hover hnext =>
        -- Time has come on by a millisecond at least, and there is one look less.
        have hcome : time ≤ _ := of_decide_eq_true hover
        exact ih (by omega) hnext

/-- The wait of a drain for the pending requests, from a time and a state on: its steps leave
nothing in the history, it waits until `T` later at the latest, and at its end nothing is
pending or that time has come. Without statistics it is left out. -/
structure PendingWait (others : Host → Host → Prop) (n : Nat) (i : Instance) (T t : Nat)
    (h : Host) (steps : List (Step Host)) (u : Nat) (h' : Host) : Prop where
  run : (settle i n T).Run others t h steps (done ()) u h'
  silent : ownHappenings steps = []
  bounded : ∀ {xs q v s}, (settle i n T).Run others t h xs q v s → q.WaitsBy (t + T)
  expires : i.conduct.hasStatistics = true → h'.pendingOf u n = 0 ∨ t + T ≤ u
  skipped : i.conduct.hasStatistics = false → steps = []

theorem drainPending_run {id : String} {q : HostProgram Unit}
    (hrun : (drainPending id n T).Run others t h steps q u h') :
    q.WaitsBy (t + T) ∧ (q = done () → h'.pendingOf u n = 0 ∨ t + T ≤ u) := by
  obtain ⟨-, rfl, -⟩ | ⟨rest, -, hnow⟩ := hrun.of_act
  · exact ⟨trivial, nofun⟩
  obtain ⟨-, rfl, -⟩ | ⟨rest, -, hlook⟩ := hnow.of_act
  · exact ⟨trivial, nofun⟩
  replace hlook : ((waitForPending n h.settings.policy.drainPollIntervalMs (t + T) (T + 1)).bind
      fun left => if left = 0 then done () else note (.pendingAbandoned (.timeout id T left))).Run
      others t h rest q u h' := hlook
  have hlooks : t + T < t + (T + 1) := Nat.lt_succ_self _
  obtain ⟨p', rfl, hp', hp⟩ | ⟨left, xs, ys, t₁, h₁, -, hp, hnote⟩ := hlook.of_bind
  · exact ⟨waitsBy_bind (waitForPending_run hlooks hp).1 hp',
      fun hdone => absurd hdone (bind_ne_done hp' ())⟩
  have hover := (waitForPending_run hlooks hp).2 left rfl
  -- What is noted at the end takes no time and leaves the instance alone.
  obtain ⟨hq, rfl, hpending⟩ : q.WaitsBy (t + T) ∧ u = t₁ ∧
      h'.pendingOf u n = h₁.pendingOf u n := by
    split at hnote
    · obtain ⟨-, rfl, rfl, rfl⟩ := hnote.of_done
      exact ⟨trivial, rfl, rfl⟩
    · obtain ⟨-, rfl, rfl, rfl⟩ | ⟨zs, -, hend⟩ := hnote.of_act
      · exact ⟨trivial, rfl, rfl⟩
      · obtain ⟨-, rfl, rfl, rfl⟩ := hend.of_done
        exact ⟨trivial, rfl, rfl⟩
  exact ⟨hq, fun _ => hpending ▸ hover⟩

theorem settle_run {q : HostProgram Unit} (hrun : (settle i n T).Run others t h steps q u h') :
    q.WaitsBy (t + T) := by
  unfold settle at hrun
  split at hrun
  · exact (drainPending_run hrun).1
  · obtain ⟨-, rfl, -⟩ := hrun.of_done
    exact trivial

theorem settle_pendingWait (hrun : (settle i n T).Run others t h steps (done ()) u h') :
    PendingWait others n i T t h steps u h' := by
  have hworks : (settle i n T).Works fun _ => False := settle_works i n T
  refine ⟨hrun, hworks.ownHappenings_eq (fun _ _ => False.elim) hrun, settle_run, ?_, ?_⟩
  · intro hstat
    rw [settle, if_pos hstat] at hrun
    exact (drainPending_run hrun).2 rfl
  · intro hstat
    rw [settle, hstat] at hrun
    exact hrun.of_done.1

/-! ## Answers -/

/-- What a call of an instance leaves in the history. -/
def callTrace (n : Nat) (call : Call) (ending : Ending) : List Happening :=
  [.called n call, .ended n call ending]

/-- What a call leaves in the history that is not always made. -/
def callTrace? (n : Nat) (call : Call) : Option Ending → List Happening
  | some ending => callTrace n call ending
  | none => []

/-- What a call of the gateway leaves in the history, if there is one. -/
def gatewayTrace? (id : String) (call : GatewayCall) : Option ProtocolFamily → List Happening
  | some family => [.gatewayCalled family id call]
  | none => []

theorem Ending.result_eq_done {ending : Ending} {r : Except ErrorChain Unit} :
    ending.result = done r ↔
      (ending = .succeeded ∧ r = .ok ()) ∨ ∃ e, ending = .failed e ∧ r = .error e := by
  cases ending <;> simp [Ending.result, eq_comm]

/-- A call that has been answered. -/
theorem callInstance_done {call : Call} {r : Except ErrorChain Unit}
    (hrun : (callInstance n call).Run others t h steps (done r) u h')
    (hj : h.instance? n = some j) :
    ∃ ending, ending.result = done r ∧ ownHappenings steps = callTrace n call ending := by
  obtain ⟨-, hdone⟩ | ⟨rest, rfl, ⟨-, hnot⟩ | ⟨hend, hdone⟩⟩ := callInstance_run hrun hj
  · cases hdone
  · exact absurd rfl (hnot r)
  · refine ⟨_, hdone.symm, ?_⟩
    rw [show (⟨true, t, h, _⟩ : Step Host) = beginStep t h n call from rfl,
      ownHappenings_begin hj, hend]
    rfl

/-- What follows a program that leaves nothing in the history. -/
theorem noteFailure_ownHappenings {ε : Type} {notice : ε → Notice} {r : Except ε Unit}
    {q : HostProgram Unit} (hrun : (noteFailure notice r).Run others t h steps q u h') :
    ownHappenings steps = [] := by
  have hworks : (noteFailure notice r).Works fun _ => False := noteFailure_works notice r
  exact hworks.ownHappenings_eq (fun _ _ => False.elim) hrun

theorem callShutdownHook_done {call : Call} {name : String}
    (hrun : (callShutdownHook i n call name).Run others t h steps (done ()) u h')
    (hj : h.instance? n = some j) :
    ∃ answer, answer.isSome = i.conduct.hasHooks ∧
      ownHappenings steps = callTrace? n call answer := by
  cases hhooks : i.conduct.hasHooks with
  | false =>
    rw [callShutdownHook, hhooks] at hrun
    obtain ⟨rfl, -⟩ := hrun.of_done
    exact ⟨none, rfl, rfl⟩
  | true =>
    rw [callShutdownHook, hhooks] at hrun
    obtain ⟨r, xs, ys, t₁, h₁, rfl, hcall, hnote⟩ := Run.of_bind_done hrun
    obtain ⟨ending, -, htrace⟩ := callInstance_done hcall hj
    exact ⟨some ending, rfl, by simp [htrace, noteFailure_ownHappenings hnote, callTrace?]⟩

theorem callGatewayIfAny_done {id : String} {gateway : Option (ProtocolFamily × Gateway)}
    {call : GatewayCall} {notice : ErrorChain → Notice}
    (hrun : (callGatewayIfAny id gateway call notice).Run others t h steps (done ()) u h') :
    ownHappenings steps = gatewayTrace? id call (gateway.map (·.1)) := by
  cases gateway with
  | none =>
    obtain ⟨rfl, -⟩ := hrun.of_done
    rfl
  | some g =>
    obtain ⟨r, xs, ys, t₁, h₁, rfl, hcall, hnote⟩ := Run.of_bind_done hrun
    obtain ⟨rest, rfl, hwait⟩ := hcall.of_act_done
    -- The answer takes its time, and leaves nothing.
    have hworks : (g.2.respond id call).wait.Works fun _ => False := wait_works _
    have hrest := hworks.ownHappenings_eq (fun _ _ => False.elim) hwait
    have hadds : Step.adds ⟨true, t, h, h.happen t (.gatewayCalled g.1 id call)⟩ =
        [.gatewayCalled g.1 id call] := Step.adds_eq Host.past_happen
    rw [ownHappenings_append, noteFailure_ownHappenings hnote, ownHappenings_cons rfl, hrest]
    simp [hadds, gatewayTrace?]

/-! ## The course -/

/-- How a drain went: how the instance answered its hooks and the calls of stop, and which
family's gateway was called. -/
structure DrainCourse where
  prepared : Option Ending
  gateway : Option ProtocolFamily
  closed : Option Ending
  stopped : Ending
  stoppedAgain : Option Ending

/-- What a drain leaves in the history before it waits for pending requests. -/
def DrainCourse.opening (c : DrainCourse) (id : String) (n : Nat) : List Happening :=
  callTrace? n .prepare c.prepared ++ [.switched n false] ++
    gatewayTrace? id .stopAccepting c.gateway

/-- What a drain leaves in the history after it has waited for pending requests. -/
def DrainCourse.closing (c : DrainCourse) (id : String) (n : Nat) : List Happening :=
  callTrace? n .closeConnections c.closed ++ gatewayTrace? id .closeConnections c.gateway ++
    (callTrace n .stop c.stopped ++ callTrace? n .stop c.stoppedAgain)

/-- The first stop at the end of a drain, the second one if there was one, and the result: a
first stop that fails is followed by a second one, and only the two decide. -/
structure StopsDecide (id : String) (stopped : Ending) (stoppedAgain : Option Ending)
    (r : Except LifecycleError Unit) : Prop where
  again : stoppedAgain.isSome = true ↔ ∃ e, stopped = .failed e
  succeeds : r = .ok () ↔ stopped = .succeeded ∨ stoppedAgain = some .succeeded
  fails : ∀ e, r = .error e → ∃ reason, e = .stopFailed id reason

/-- A drain that has come to its end has gone this course: what there was of hooks, gateway
and statistics was used once, in order, and the instance was stopped at the end. -/
structure DrainCourse.Describes (c : DrainCourse) (others : Host → Host → Prop) (n : Nat)
    (i : Instance) (T : Nat) (steps : List (Step Host)) (r : Except LifecycleError Unit) :
    Prop where
  prepared : c.prepared.isSome = i.conduct.hasHooks
  closed : c.closed.isSome = i.conduct.hasHooks
  gateway : ∃ x ∈ steps, x.own = true ∧ x.adds = [.switched n false] ∧
    c.gateway = (x.after.gatewayFor? i.id).map (·.1)
  parts : ∃ xs ws zs t₁ h₁ t₂ h₂, steps = xs ++ ws ++ zs ∧
    ownHappenings xs = c.opening i.id n ∧ PendingWait others n i T t₁ h₁ ws t₂ h₂ ∧
    ownHappenings zs = c.closing i.id n
  stops : StopsDecide i.id c.stopped c.stoppedAgain r

theorem openDrain_done {gateway : Option (ProtocolFamily × Gateway)}
    (hrun : (openDrain i n).Run others t h steps (done gateway) u h')
    (hj : h.instance? n = some j) :
    ∃ prepared x, prepared.isSome = i.conduct.hasHooks ∧ x ∈ steps ∧ x.own = true ∧
      x.adds = [.switched n false] ∧ gateway = x.after.gatewayFor? i.id ∧
      ownHappenings steps = callTrace? n .prepare prepared ++ [.switched n false] ++
        gatewayTrace? i.id .stopAccepting (gateway.map (·.1)) := by
  obtain ⟨_, xs, ys, t₁, h₁, rfl, hhook, hrest⟩ := Run.of_bind_done hrun
  obtain ⟨prepared, hhooks, hprepared⟩ := callShutdownHook_done hhook hj
  obtain ⟨zs, rfl, hasks⟩ := hrest.of_act_done
  have hswitched : Step.adds ⟨true, t₁, h₁, h₁.switch t₁ n false⟩ = [.switched n false] :=
    Step.adds_eq (by simp [Host.switch])
  obtain ⟨vs, rfl, hcalls⟩ := Run.of_ask_bind_done hasks
  -- What the question has found is what is called, and what the drain goes on with.
  obtain ⟨_, ws, end', t₂, h₂, rfl, hgateway, hend⟩ := Run.of_bind_done hcalls
  obtain ⟨rfl, hdone, -⟩ := hend.of_done
  obtain rfl := Program.done.inj hdone
  refine ⟨prepared, _, hhooks, ?_, rfl, hswitched, rfl, ?_⟩
  · exact List.mem_append_right _ List.mem_cons_self
  · have hidle : Step.IsIdle ⟨true, t₁, h₁.switch t₁ n false, h₁.switch t₁ n false⟩ := ⟨rfl, rfl⟩
    rw [ownHappenings_append, hprepared, ownHappenings_cons rfl, hswitched]
    rw [ownHappenings_idle hidle, List.append_nil, callGatewayIfAny_done hgateway]
    simp

theorem stopWithRetry_done {r : Except LifecycleError Unit}
    (hrun : (stopWithRetry i.id n).Run (Host.StillOffers ok n i) t h steps (done r) u h')
    (ho : h.Offers ok n i) :
    ∃ stopped stoppedAgain,
      ownHappenings steps = callTrace n .stop stopped ++ callTrace? n .stop stoppedAgain ∧
      StopsDecide i.id stopped stoppedAgain r := by
  rw [stopWithRetry_eq] at hrun
  obtain ⟨rest, rfl, hfind⟩ := Run.of_ask_bind_done hrun
  rw [ho.registered] at hfind
  rw [ownHappenings_idle ⟨rfl, rfl⟩]
  obtain ⟨first, xs, ys, t₁, h₁, rfl, hcall, hafter⟩ := Run.of_bind_done hfind
  have hworks : (callInstance n .stop).Works (Deed.IsCall (fun _ => True) (· = .stop)) :=
    callInstance_isCall trivial rfl
  have ho₁ := hworks.offers (fun _ => Deed.IsCall.sparesRegistry) hcall ho
  obtain ⟨j, hj, -⟩ := ho.there
  obtain ⟨stopped, hstopped, hxs⟩ := callInstance_done hcall hj
  obtain ⟨rfl, rfl⟩ | ⟨e, rfl, rfl⟩ := Ending.result_eq_done.mp hstopped
  · obtain ⟨rfl, hdone, -⟩ := hafter.of_done
    obtain rfl := Program.done.inj hdone
    exact ⟨.succeeded, none, by simp [hxs, callTrace?], by simp, by simp, nofun⟩
  -- The first stop has failed, so the instance in hand is told to stop as well.
  obtain ⟨zs, rfl, hforce⟩ := hafter.of_act_done
  replace hforce : (forceStop i.id n).Run (Host.StillOffers ok n i) t₁ _ zs (done r) u h' := hforce
  obtain ⟨second, vs, ws, t₂, h₂, rfl, hagain, hend⟩ := Run.of_bind_done hforce
  obtain ⟨j₁, hj₁, -⟩ := ho₁.there
  obtain ⟨stoppedAgain, hresult, hvs⟩ := callInstance_done hagain hj₁
  refine ⟨.failed e, some stoppedAgain, ?_⟩
  rw [ownHappenings_append, hxs, ownHappenings_idle ⟨rfl, rfl⟩, ownHappenings_append, hvs]
  obtain ⟨rfl, rfl⟩ | ⟨e', rfl, rfl⟩ := Ending.result_eq_done.mp hresult
  · obtain ⟨rfl, hdone, -⟩ := hend.of_done
    obtain rfl := Program.done.inj hdone
    exact ⟨by simp [callTrace?], by simp, by simp, nofun⟩
  · obtain ⟨rfl, hdone, -⟩ := hend.of_done
    obtain rfl := Program.done.inj hdone
    refine ⟨by simp [callTrace?], by simp, by simp, fun e hfailed => ?_⟩
    cases hfailed
    exact ⟨_, rfl⟩

theorem closeDrain_done {gateway : Option (ProtocolFamily × Gateway)}
    {r : Except LifecycleError Unit}
    (hrun : (closeDrain i n gateway).Run (Host.StillOffers ok n i) t h steps (done r) u h')
    (ho : h.Offers ok n i) :
    ∃ closed stopped stoppedAgain, closed.isSome = i.conduct.hasHooks ∧
      StopsDecide i.id stopped stoppedAgain r ∧
      ownHappenings steps = callTrace? n .closeConnections closed ++
        gatewayTrace? i.id .closeConnections (gateway.map (·.1)) ++
        (callTrace n .stop stopped ++ callTrace? n .stop stoppedAgain) := by
  obtain ⟨_, xs, ys, t₁, h₁, rfl, hhook, hrest⟩ := Run.of_bind_done hrun
  obtain ⟨_, vs, zs, t₂, h₂, rfl, hgateway, hstop⟩ := Run.of_bind_done hrest
  have hclose : (callInstance n .closeConnections).Works (Deed.IsQuieting n) :=
    callInstance_works ⟨rfl, .inr rfl⟩ fun _ => ⟨rfl, .inr rfl⟩
  have hcalls : (callGatewayIfAny i.id gateway .closeConnections
      (.gatewayCloseFailed i.id)).Works (Deed.IsQuieting n) :=
    callGatewayIfAny_works gateway fun _ => trivial
  have ho₁ := (callShutdownHook_works hclose).offers (fun _ => Deed.IsQuieting.sparesRegistry)
    hhook ho
  have ho₂ := hcalls.offers (fun _ => Deed.IsQuieting.sparesRegistry) hgateway ho₁
  obtain ⟨j, hj, -⟩ := ho.there
  obtain ⟨closed, hhooks, hclosed⟩ := callShutdownHook_done hhook hj
  obtain ⟨stopped, stoppedAgain, hstops, hdecide⟩ := stopWithRetry_done hstop ho₂
  refine ⟨closed, stopped, stoppedAgain, hhooks, hdecide, ?_⟩
  rw [ownHappenings_append, hclosed, ownHappenings_append, callGatewayIfAny_done hgateway, hstops]
  simp

/-- A drain that has come to its end has gone a course. -/
theorem drain_done_describes {r : Except LifecycleError Unit}
    (hrun : (drain n T).Run (Host.StillOffers ok n i) t h steps (done r) u h')
    (ho : h.Offers ok n i) :
    ∃ c : DrainCourse, c.Describes (Host.StillOffers ok n i) n i T steps r := by
  obtain ⟨rest, rfl, hdrain⟩ := Run.of_ask_bind_done hrun
  obtain ⟨j, hj, hmake⟩ := ho.there
  simp only [hj] at hdrain
  rw [drainInstance_congr hmake, drainInstance_parts] at hdrain
  obtain ⟨gateway, xs, ys, t₁, h₁, rfl, hopen, hrest⟩ := Run.of_bind_done hdrain
  obtain ⟨_, ws, zs, t₂, h₂, rfl, hsettle, hclose⟩ := Run.of_bind_done hrest
  have hsettles : (settle i n T).Works (Deed.IsQuieting n) := settle_works i n T
  have ho₁ := (openDrain_works i n).offers (fun _ => Deed.IsQuieting.sparesRegistry) hopen ho
  have ho₂ := hsettles.offers (fun _ => Deed.IsQuieting.sparesRegistry) hsettle ho₁
  obtain ⟨prepared, x, hprepared, hx, hown, hadds, rfl, hopening⟩ := openDrain_done hopen hj
  obtain ⟨closed, stopped, stoppedAgain, hclosed, hdecide, hclosing⟩ := closeDrain_done hclose ho₂
  refine ⟨⟨prepared, (x.after.gatewayFor? i.id).map (·.1), closed, stopped, stoppedAgain⟩,
    hprepared, hclosed, ⟨x, ?_, hown, hadds, rfl⟩, ?_, hdecide⟩
  · exact List.mem_cons_of_mem _ (List.mem_append_left _ hx)
  · refine ⟨⟨true, t, h, h⟩ :: xs, ws, zs, t₁, h₁, t₂, h₂, by simp, ?_,
      settle_pendingWait hsettle, hclosing⟩
    rw [ownHappenings_idle ⟨rfl, rfl⟩]
    exact hopening

/-! ## Drains end -/

/-- Where a drain meets only results, the program ends in a value, and the drain still meets
what it did. -/
def Program.GivesResult (n : Nat) (i : Instance) (p : HostProgram α) : Prop :=
  ∀ t h, h.Offers Response.IsResult n i →
    p.wp (Host.StillOffers Response.IsResult n i) (fun _ _ _ => True)
      (fun _ h r => ∃ a, r = .ok a ∧ h.Offers Response.IsResult n i) t h

theorem givesResult_done (a : α) : (done a : HostProgram α).GivesResult n i :=
  fun _ _ ho => ⟨a, rfl, ho⟩

theorem givesResult_bind {p : HostProgram α} {k : α → HostProgram β} (hp : p.GivesResult n i)
    (hk : ∀ a, (k a).GivesResult n i) : (p.bind k).GivesResult n i := by
  intro t h ho
  apply wp_bind
  refine wp_mono (hp t h ho) id id fun {t h r} hr => ?_
  obtain ⟨a, rfl, ho⟩ := hr
  exact hk a t h ho

/-- What a program still meets at its end follows from its deeds. -/
theorem Program.Works.givesResult {allowed : Deed → Prop} {p : HostProgram α}
    (hw : p.Works allowed) (hspares : ∀ d, allowed d → d.SparesRegistry)
    (hvalue : ∀ t h, h.Offers Response.IsResult n i →
      p.wp (Host.StillOffers Response.IsResult n i) (fun _ _ _ => True)
        (fun _ _ r => ∃ a, r = .ok a) t h) : p.GivesResult n i := by
  intro t h ho
  have hkeeps : p.wp (Host.StillOffers Response.IsResult n i)
      (fun now a b => a.Offers Response.IsResult n i ∧ Host.Did allowed now a b)
      (fun _ h _ => h.Offers Response.IsResult n i ∧ True) t h := by
    refine wp_invariant (fun ho hstill => hstill ho) (fun ho hdid => ?_) hw.does.wp ho
    obtain ⟨d, hd, rfl⟩ := hdid
    exact Host.perform_offers (hd.elim Deed.IsQuiet.sparesRegistry (hspares d)) ho
  refine wp_mono (wp_and (hvalue t h ho) hkeeps) id (fun _ => trivial) fun {t h r} hr => ?_
  obtain ⟨⟨a, rfl⟩, ho, -⟩ := hr
  exact ⟨a, rfl, ho⟩

theorem Program.IsCalm.wp {σ ι : Type} {p : Program σ ι α} {rely : σ → σ → Prop} {s : σ}
    (hp : p.IsCalm) :
    p.wp rely (fun _ _ _ => True) (fun _ _ r => ∃ a, r = .ok a) t s := by
  induction p generalizing t s with
  | done a => exact ⟨a, rfl⟩
  | breakDown message => exact hp.elim
  | act step next ih => exact ⟨trivial, ih _ (hp _)⟩
  | wait ready deadline next ih => exact fun _ _ _ _ _ => ih hp
  | spawn own job next ih => exact fun number => ih number (hp number)
  | goOn job => exact trivial

theorem givesResult_calm {p : HostProgram α} (hw : p.Works fun _ => False) (hp : p.IsCalm) :
    p.GivesResult n i :=
  hw.givesResult (fun _ => False.elim) fun _ _ _ => hp.wp

theorem noteFailure_givesResult {ε : Type} (notice : ε → Notice) (r : Except ε Unit) :
    (noteFailure notice r).GivesResult n i := by
  cases r with
  | ok _ => exact givesResult_done ()
  | error e => exact givesResult_calm (noteAll_works _) fun _ => trivial

theorem result_wp {ending : Ending} {rely : Host → Host → Prop}
    (hresult : ∀ message, ending ≠ .brokeDown message) :
    ending.result.wp rely (fun _ _ _ => True) (fun _ _ r => ∃ a, r = .ok a) t h := by
  cases ending with
  | succeeded => exact ⟨_, rfl⟩
  | failed e => exact ⟨_, rfl⟩
  | brokeDown message => exact absurd rfl (hresult message)

theorem callInstance_givesResult {call : Call} (hcall : call.IsOfDrain) :
    (callInstance n call).GivesResult n i := by
  have hworks : (callInstance n call).Works (Deed.IsCall (fun _ => True) (· = call)) :=
    callInstance_isCall trivial rfl
  refine hworks.givesResult (fun _ => Deed.IsCall.sparesRegistry) fun t h ho => ?_
  obtain ⟨j, hj, hmake⟩ := ho.there
  have hconduct : j.conduct = i.conduct := congrArg (·.2.2) hmake
  have hresult : (h.beginCall t n call).1.IsResult := by
    rw [Host.beginCall_some hj]
    show (j.conduct.respond call j.calls).IsResult
    rw [hconduct]
    exact ho.calls call hcall _
  -- It waits for the answer, and the end of the call is noted.
  exact ⟨trivial, trivial, fun _ _ _ _ _ => ⟨trivial, result_wp hresult⟩⟩

theorem callShutdownHook_givesResult {call : Call} {name : String} (hcall : call.IsOfDrain) :
    (callShutdownHook i n call name).GivesResult n i := by
  unfold callShutdownHook
  split
  · exact givesResult_bind (callInstance_givesResult hcall) fun r => noteFailure_givesResult _ r
  · exact givesResult_done ()

theorem callGatewayIfAny_givesResult {gateway : Option (ProtocolFamily × Gateway)}
    {call : GatewayCall} {notice : ErrorChain → Notice}
    (hanswers : ∀ g ∈ gateway, ∀ call, (g.2.respond i.id call).IsResult) :
    (callGatewayIfAny i.id gateway call notice).GivesResult n i := by
  cases gateway with
  | none => exact givesResult_done ()
  | some g =>
    have hworks : (callGateway g.1 g.2 i.id call).Works (Deed.IsQuieting n) :=
      callGateway_works g.2 trivial
    have hcall : (callGateway g.1 g.2 i.id call).GivesResult n i := by
      refine hworks.givesResult (fun _ => Deed.IsQuieting.sparesRegistry) fun _ _ _ => ?_
      exact ⟨trivial, trivial, fun _ _ _ _ _ => result_wp (hanswers g rfl call)⟩
    exact givesResult_bind hcall fun r => noteFailure_givesResult notice r

/-- The gateway that is asked for is one of the host's. -/
theorem Host.gatewayFor?_mem {id : String} {g : ProtocolFamily × Gateway}
    (hg : h.gatewayFor? id = some g) : g ∈ h.gateways := by
  simp only [gatewayFor?, Option.bind_eq_bind, Option.bind_eq_some_iff] at hg
  obtain ⟨family, -, gateway, hlookup, heq⟩ := hg
  cases heq
  obtain ⟨before, after, hgateways, -⟩ := List.lookup_eq_some_iff.mp hlookup
  simp [hgateways]

theorem quiet_givesResult : (quiet i n T).GivesResult n i := by
  have hswitch : (changeAt fun now h => h.switch now n false : HostProgram Unit).Works
      (Deed.IsQuieting n) := works_deed (d := .switch n false) (.inr ⟨rfl, rfl⟩) fun _ _ => rfl
  refine givesResult_bind (callShutdownHook_givesResult trivial) fun _ => ?_
  refine givesResult_bind (hswitch.givesResult (fun _ => Deed.IsQuieting.sparesRegistry)
    fun _ _ _ => ⟨trivial, (), rfl⟩) fun _ => ?_
  -- One gateway is asked for, and called twice.
  intro t h ho
  have hanswers : ∀ g ∈ h.gatewayFor? i.id, ∀ call, (g.2.respond i.id call).IsResult := by
    intro g hg
    exact ho.gateways g (Host.gatewayFor?_mem hg)
  refine ⟨trivial, givesResult_bind (callGatewayIfAny_givesResult hanswers) (fun _ => ?_) t h ho⟩
  refine givesResult_bind (givesResult_calm (settle_works i n T) (settle_calm i n T)) fun _ => ?_
  refine givesResult_bind (callShutdownHook_givesResult trivial) fun _ => ?_
  exact callGatewayIfAny_givesResult hanswers

theorem stopWithRetry_givesResult : (stopWithRetry i.id n).GivesResult n i := by
  have hstop : (callInstance n .stop).GivesResult n i := callInstance_givesResult trivial
  have hforce : (forceStop i.id n).GivesResult n i := by
    refine givesResult_bind hstop fun r => ?_
    cases r <;> exact givesResult_done _
  intro t h ho
  rw [stopWithRetry_eq]
  have hfound : (stopFound i.id n (h.registry.get? i.id)).GivesResult n i := by
    rw [ho.registered]
    refine givesResult_bind hstop fun r => ?_
    cases r with
    | ok _ => exact givesResult_done _
    | error e =>
      have hnote (notice : Notice) : (note notice).GivesResult n i :=
        givesResult_calm (noteAll_works _) fun _ => trivial
      exact givesResult_bind (hnote _) fun _ => hforce
  exact ⟨trivial, hfound t h ho⟩

theorem drain_givesResult : (drain n T).GivesResult n i := by
  intro t h ho
  obtain ⟨j, hj, hmake⟩ := ho.there
  have hdrain : (drainInstance j n T).GivesResult n i := by
    rw [drainInstance_congr hmake, drainInstance_eq]
    exact givesResult_bind quiet_givesResult fun _ => stopWithRetry_givesResult
  refine ⟨trivial, ?_⟩
  simp only [hj]
  exact hdrain t h ho

/-! ## Every drain -/

/-- As long as the instance stays what is registered under its id, and it and the gateways
answer with results, a drain can be run on to its end from wherever it is, and at its end it
has gone a course: whatever others do meanwhile, with the pending requests or otherwise. -/
theorem drain_goes_course {q : HostProgram (Except LifecycleError Unit)}
    (ho : h.Offers Response.IsResult n i)
    (hrun : (drain n T).Run (Host.StillOffers Response.IsResult n i) t h steps q u h') :
    (∃ more r v h'', q.Run (Host.StillOffers Response.IsResult n i) u h' more (done r) v h'') ∧
      ∀ r, q = done r → ∃ c : DrainCourse,
        c.Describes (Host.StillOffers Response.IsResult n i) n i T steps r := by
  constructor
  · have htimed : (drain n T).IsTimed := (drain_works n T).timed
    obtain ⟨more, r, v, h'', hmore, -⟩ :=
      htimed.run_on Host.StillOffers.covers (drain_givesResult t h ho) hrun
    exact ⟨more, r, v, h'', hmore⟩
  · rintro r rfl
    exact drain_done_describes hrun ho

/-- An instance whose hooks and whose first stop fail, with a request that is never answered. -/
private def stubborn : Instance :=
  let conduct : Conduct :=
    { Conduct.idle with
      respond := fun call earlier =>
        if call ∈ earlier then .immediate else ⟨0, .failed ⟨"no", []⟩⟩
      hasStatistics := true
      hasHooks := true }
  .ofBlueprint ⟨.at "busy" "http-a", true, conduct, ⟨1, 1, 0⟩⟩ none

/-- The stubborn instance, registered on a host with a gateway of its family that fails. -/
private def stubbornHost : Host :=
  { Host.busy with
    gateways := [(.http, ⟨fun _ _ => ⟨0, .failed ⟨"shut", []⟩⟩, fun _ => 0⟩)]
    instances := [stubborn]
    registry := Registry.empty.insert "http-a" 0 none }

private theorem stubbornHost_offers : stubbornHost.Offers Response.IsResult 0 stubborn where
  there := ⟨stubborn, rfl, rfl⟩
  registered := rfl
  calls call _ earlier message := by
    show (if call ∈ earlier then Response.immediate else ⟨0, .failed ⟨"no", []⟩⟩).ending ≠ _
    split <;> exact nofun
  gateways g hg call message := by
    obtain rfl := List.mem_singleton.mp hg
    exact nofun

/-- Nothing that fails keeps the stubborn instance from being stopped at the second try. -/
theorem stubborn_drain_goes_course :
    let run := (drain 0 50).alone 7 stubbornHost
    (∃ c : DrainCourse, c.Describes (Host.StillOffers Response.IsResult 0 stubborn) 0 stubborn 50
      run.1 (.ok ())) ∧
      ownHappenings run.1 = [
        .called 0 .prepare, .ended 0 .prepare (.failed ⟨"no", []⟩), .switched 0 false,
        .gatewayCalled .http "http-a" .stopAccepting,
        .called 0 .closeConnections, .ended 0 .closeConnections (.failed ⟨"no", []⟩),
        .gatewayCalled .http "http-a" .closeConnections,
        .called 0 .stop, .ended 0 .stop (.failed ⟨"no", []⟩),
        .called 0 .stop, .ended 0 .stop .succeeded] := by
  have hdone : ((drain 0 50).alone 7 stubbornHost).2.1.hasSucceeded = true := by decide +kernel
  have hrun : (drain 0 50).Run (Host.StillOffers Response.IsResult 0 stubborn) 7 stubbornHost
      _ _ _ _ := (alone_run (drain 0 50) 7 stubbornHost).mono fun _ _ => False.elim
  refine ⟨(drain_goes_course stubbornHost_offers hrun).2 _ (eq_done_of_hasSucceeded hdone), ?_⟩
  decide +kernel

end ExtensionHost
