import ExtensionHost.Proofs.CallerTurns
import ExtensionHost.Proofs.DrainCourse

/-!
# Drains that meet prompt answers

Where an instance and the gateways answer at once, a drain waits for nothing but pending
requests: it opens and closes in one turn each, and between two turns it waits for its next
look at the requests, which comes at its deadline at the latest.
-/

namespace ExtensionHost

open Program

variable {α β : Type} {n T D : Nat} {h h' : Host} {m : HostMachine} {i j : Instance}

/-! ## Programs that take no time -/

/-- Whether an answer comes at once, and is a result. -/
structure Response.IsPrompt (r : Response) : Prop where
  delayMs : r.delayMs = 0
  result : r.IsResult

/-- Where a drain meets nothing but prompt answers, the program comes to a value in one turn,
one as `good` has it, and the drain still meets what it did. -/
def Program.AtOnce (n : Nat) (i : Instance) (good : α → Prop) (p : HostProgram α) : Prop :=
  ∀ m : HostMachine, m.state.Offers Response.IsPrompt n i →
    ∃ a, (p.runTurn hostJobs m).1 = .done a ∧ good a ∧
      (p.runTurn hostJobs m).2.state.Offers Response.IsPrompt n i

variable {good : α → Prop} {good' : β → Prop}

theorem atOnce_done {a : α} (ha : good a) : (done a : HostProgram α).AtOnce n i good :=
  fun _ ho => ⟨a, rfl, ha, ho⟩

theorem runTurn_bind_done {p : HostProgram α} {k : α → HostProgram β} {a : α}
    (hp : (p.runTurn hostJobs m).1 = .done a) :
    (p.bind k).runTurn hostJobs m = (k a).runTurn hostJobs (p.runTurn hostJobs m).2 := by
  rw [runTurn_bind]
  generalize p.runTurn hostJobs m = turned at hp
  obtain ⟨stop, m₁⟩ := turned
  cases hp
  rfl

theorem atOnce_bind {p : HostProgram α} {k : α → HostProgram β} (hp : p.AtOnce n i good)
    (hk : ∀ a, good a → (k a).AtOnce n i good') : (p.bind k).AtOnce n i good' := by
  intro m ho
  obtain ⟨a, hdone, ha, ho₁⟩ := hp m ho
  rw [runTurn_bind_done hdone]
  exact hk a ha _ ho₁

/-- A turn of a program that works by itself, seen as a run. -/
theorem Program.Works.turn {allowed : Deed → Prop} {p : HostProgram α} (hw : p.Works allowed)
    (m : HostMachine) :
    (∃ steps, p.Run Undisturbed m.time m.state steps (p.runTurn hostJobs m).1.program m.time
        (p.runTurn hostJobs m).2.state) ∧
      (p.runTurn hostJobs m).2.time = m.time ∧ m.SameRoll (p.runTurn hostJobs m).2 := by
  obtain ⟨steps, hrun⟩ := runTurn_run hostJobs p m
  have htime : (p.runTurn hostJobs m).2.time = m.time := (hw.timed.runTurn m).2.1
  rw [htime] at hrun
  exact ⟨⟨steps, hrun⟩, htime, (Works.apart hw).runTurn.2.1⟩

/-- What a drain still meets after a turn follows from the deeds. -/
theorem Program.Works.turn_offers {allowed : Deed → Prop} {p : HostProgram α}
    {ok : Response → Prop} (hw : p.Works allowed) (hspares : ∀ d, allowed d → d.SparesRegistry)
    (ho : m.state.Offers ok n i) : (p.runTurn hostJobs m).2.state.Offers ok n i := by
  obtain ⟨⟨steps, hrun⟩, -⟩ := hw.turn m
  exact hw.offers hspares (hrun.mono fun _ _ => False.elim) ho

theorem Program.Works.atOnce {allowed : Deed → Prop} {p : HostProgram α} (hw : p.Works allowed)
    (good : α → Prop) (hspares : ∀ d, allowed d → d.SparesRegistry)
    (hdone : ∀ m : HostMachine, m.state.Offers Response.IsPrompt n i →
      ∃ a, (p.runTurn hostJobs m).1 = .done a ∧ good a) : p.AtOnce n i good := by
  intro m ho
  obtain ⟨a, ha, hgood⟩ := hdone m ho
  exact ⟨a, ha, hgood, hw.turn_offers hspares ho⟩

theorem sleep_bind_runTurn {ms : Nat} {k : Unit → HostProgram β} (hms : ms = 0) :
    ((sleep ms).bind k).runTurn hostJobs m = (k ()).runTurn hostJobs m := by
  simp [sleep, sleepUntil, Program.bind, runTurn, Machine.isOver, hms]

theorem result_runTurn {r : Response} (hr : r.IsResult) (m : HostMachine) :
    ∃ a, r.ending.result.runTurn hostJobs m = (.done a, m) := by
  cases hending : r.ending with
  | succeeded => exact ⟨_, rfl⟩
  | failed e => exact ⟨_, rfl⟩
  | brokeDown message => exact absurd hending (hr message)

theorem callInstance_atOnce {call : Call} (hcall : call.IsOfDrain) :
    (callInstance n call).AtOnce n i fun _ => True := by
  have hworks : (callInstance n call).Works (Deed.IsCall (fun _ => True) (· = call)) :=
    callInstance_isCall trivial rfl
  refine hworks.atOnce _ (fun _ => Deed.IsCall.sparesRegistry) fun m ho => ?_
  obtain ⟨j, hj, hmake⟩ := ho.there
  have hconduct : j.conduct = i.conduct := congrArg (·.2.2) hmake
  have hprompt : (j.response call).IsPrompt := by
    rw [Instance.response, hconduct]
    exact ho.calls call hcall _
  simp only [callInstance, bind_eq, runTurn, Host.beginCall_some hj]
  rw [sleep_bind_runTurn hprompt.delayMs]
  simp only [changeAt, Program.bind, runTurn]
  obtain ⟨a, ha⟩ := result_runTurn hprompt.result _
  exact ⟨a, congrArg Prod.fst ha, trivial⟩

theorem noteFailure_atOnce {ε : Type} (notice : ε → Notice) (r : Except ε Unit) :
    (noteFailure notice r).AtOnce n i fun _ => True := by
  have hworks : (noteFailure notice r).Works fun _ => False := noteFailure_works notice r
  refine hworks.atOnce _ (fun _ => False.elim) fun m _ => ?_
  cases r <;> exact ⟨(), rfl, trivial⟩

theorem callShutdownHook_atOnce {call : Call} {name : String} (hcall : call.IsOfDrain) :
    (callShutdownHook i n call name).AtOnce n i fun _ => True := by
  unfold callShutdownHook
  split
  · exact atOnce_bind (callInstance_atOnce hcall) fun r _ => noteFailure_atOnce _ r
  · exact atOnce_done trivial

/-- Whether a gateway, if there is one, answers at once. -/
def PromptGateway (id : String) (gateway : Option (ProtocolFamily × Gateway)) : Prop :=
  ∀ g ∈ gateway, ∀ call, (g.2.respond id call).IsPrompt

theorem Host.Offers.promptGateway (ho : h.Offers Response.IsPrompt n i) :
    PromptGateway i.id (h.gatewayFor? i.id) := by
  intro g hg call
  exact ho.gateways g (Host.gatewayFor?_mem hg) call

theorem callGatewayIfAny_atOnce {gateway : Option (ProtocolFamily × Gateway)} {call : GatewayCall}
    {notice : ErrorChain → Notice} (hg : PromptGateway i.id gateway) :
    (callGatewayIfAny i.id gateway call notice).AtOnce n i fun _ => True := by
  cases gateway with
  | none => exact atOnce_done trivial
  | some g =>
    obtain ⟨family, g⟩ := g
    have hworks : (callGateway family g i.id call).Works (Deed.IsQuieting n) :=
      callGateway_works g trivial
    have hcall : (callGateway family g i.id call).AtOnce n i fun _ => True := by
      refine hworks.atOnce _ (fun _ => Deed.IsQuieting.sparesRegistry) fun m _ => ?_
      have hprompt : (g.respond i.id call).IsPrompt := hg (family, g) rfl call
      simp only [callGateway, Response.wait, bind_eq, changeAt, Program.bind, runTurn]
      rw [sleep_bind_runTurn hprompt.delayMs]
      obtain ⟨a, ha⟩ := result_runTurn hprompt.result _
      exact ⟨a, congrArg Prod.fst ha, trivial⟩
    exact atOnce_bind hcall fun r _ => noteFailure_atOnce _ r

/-! ## Traffic -/

/-- Requests come and go: the instances stay as they were made, and nothing else of the host is
different or has happened. -/
structure Host.Traffic (h h' : Host) : Prop where
  setup : h'.setup = h.setup
  registry : h'.registry = h.registry
  outcomes : h'.outcomes = h.outcomes
  past : h'.past = h.past
  instances : ∀ {n i}, h.instance? n = some i → ∃ j, h'.instance? n = some j ∧ j.make = i.make

theorem Host.Traffic.of_notice (h : Host) (ns : List Notice) : h.Traffic (h.notice ns) :=
  ⟨rfl, rfl, rfl, rfl, fun hi => ⟨_, hi, rfl⟩⟩

theorem Host.Traffic.hasEnded (hs : h.Traffic h') (k : Nat) : h'.hasEnded k = h.hasEnded k := by
  rw [Host.hasEnded, Host.hasEnded, Host.outcome?, Host.outcome?, hs.outcomes]

theorem Host.Traffic.offers {ok : Response → Prop} (hs : h.Traffic h') (ho : h.Offers ok n i) :
    h'.Offers ok n i where
  there := by
    obtain ⟨j, hj, hmake⟩ := ho.there
    obtain ⟨j', hj', hmake'⟩ := hs.instances hj
    exact ⟨j', hj', hmake'.trans hmake⟩
  registered := by
    rw [hs.registry]
    exact ho.registered
  calls := ho.calls
  gateways := by
    rw [show h'.gateways = h.gateways from congrArg Setup.gateways hs.setup]
    exact ho.gateways

/-! ## A drain but for its wait -/

theorem openDrain_atOnce : (openDrain i n).AtOnce n i (PromptGateway i.id) := by
  have hswitch : (changeAt fun now h => h.switch now n false : HostProgram Unit).Works
      (Deed.IsQuieting n) := works_deed (d := .switch n false) (.inr ⟨rfl, rfl⟩) fun _ _ => rfl
  have hask : (ask (·.gatewayFor? i.id) : HostProgram _).Works (Deed.IsQuieting n) := works_ask _
  have hspares : ∀ d, Deed.IsQuieting n d → d.SparesRegistry := fun _ =>
    Deed.IsQuieting.sparesRegistry
  refine atOnce_bind (callShutdownHook_atOnce trivial) fun _ _ => ?_
  refine atOnce_bind (hswitch.atOnce (fun _ => True) hspares fun _ _ => ⟨(), rfl, trivial⟩)
    fun _ _ => ?_
  refine atOnce_bind (hask.atOnce (PromptGateway i.id) hspares fun m ho =>
    ⟨_, rfl, ho.promptGateway⟩) fun gateway hg => ?_
  exact atOnce_bind (callGatewayIfAny_atOnce hg) fun _ _ => atOnce_done hg

theorem stopWithRetry_atOnce : (stopWithRetry i.id n).AtOnce n i fun _ => True := by
  have hask : (ask (·.registry.get? i.id) : HostProgram _).Works fun _ => False := works_ask _
  have hforce : (forceStop i.id n).AtOnce n i fun _ => True := by
    refine atOnce_bind (callInstance_atOnce trivial) fun r _ => ?_
    cases r <;> exact atOnce_done trivial
  rw [stopWithRetry_eq]
  refine atOnce_bind (hask.atOnce (· = some n) (fun _ => False.elim) fun m ho =>
    ⟨_, rfl, ho.registered⟩) fun found hfound => ?_
  rw [hfound]
  refine atOnce_bind (callInstance_atOnce trivial) fun r _ => ?_
  cases r with
  | ok _ => exact atOnce_done trivial
  | error e =>
    have hnote : (note (.stopForced i.id (.stopFailed i.id e.full))).Works fun _ => False :=
      noteAll_works _
    exact atOnce_bind (hnote.atOnce (fun _ => True) (fun _ => False.elim) fun _ _ =>
      ⟨(), rfl, trivial⟩) fun _ _ => hforce

theorem closeDrain_atOnce {gateway : Option (ProtocolFamily × Gateway)}
    (hg : PromptGateway i.id gateway) : (closeDrain i n gateway).AtOnce n i fun _ => True := by
  refine atOnce_bind (callShutdownHook_atOnce trivial) fun _ _ => ?_
  exact atOnce_bind (callGatewayIfAny_atOnce hg) fun _ _ => stopWithRetry_atOnce

/-- Between two states stop was called of these instances, and of no other. -/
def Host.Stops (ns : List Nat) (h h' : Host) : Prop :=
  ∃ new, h'.past = h.past ++ new ∧ ∀ x, .called x .stop ∈ new ↔ x ∈ ns

theorem Host.Stops.of_past (hpast : h'.past = h.past) : h.Stops [] h' :=
  ⟨[], by simp [hpast], by simp⟩

theorem Host.Stops.trans {h'' : Host} {ns ns' : List Nat} (hs : h.Stops ns h')
    (hs' : h'.Stops ns' h'') : h.Stops (ns ++ ns') h'' := by
  obtain ⟨xs, hxs, hns⟩ := hs
  obtain ⟨ys, hys, hns'⟩ := hs'
  refine ⟨xs ++ ys, by rw [hys, hxs, List.append_assoc], fun x => ?_⟩
  rw [List.mem_append, List.mem_append, hns, hns']

theorem Host.Stops.mem_since {ns : List Nat} (hs : h.Stops ns h') :
    .called n .stop ∈ h'.since h ↔ n ∈ ns := by
  obtain ⟨new, hpast, hns⟩ := hs
  rw [Host.since_eq hpast]
  exact hns n

theorem called_stop_mem_callTrace? {x : Nat} {call : Call} {ending : Option Ending} :
    .called x .stop ∈ callTrace? n call ending ↔ (x = n ∧ call = .stop) ∧ ending.isSome := by
  cases ending <;> simp [callTrace?, callTrace, eq_comm]

theorem called_stop_not_mem_gatewayTrace? {x : Nat} {id : String} {call : GatewayCall}
    {family : Option ProtocolFamily} : .called x .stop ∉ gatewayTrace? id call family := by
  cases family <;> simp [gatewayTrace?]

/-- A drain opens in one turn, and stops nothing. -/
theorem openDrain_turn (ho : m.state.Offers Response.IsPrompt n i) :
    ∃ gateway, ((openDrain i n).runTurn hostJobs m).1 = .done gateway ∧
      PromptGateway i.id gateway ∧
      ((openDrain i n).runTurn hostJobs m).2.state.Offers Response.IsPrompt n i ∧
      m.state.Stops [] ((openDrain i n).runTurn hostJobs m).2.state := by
  obtain ⟨gateway, hdone, hg, ho'⟩ := openDrain_atOnce m ho
  obtain ⟨⟨steps, hrun⟩, -⟩ := (openDrain_works i n).turn m
  have hpast := (openDrain_works i n).past_eq hrun
  rw [hdone] at hrun
  obtain ⟨j, hj, -⟩ := ho.there
  obtain ⟨prepared, -, -, -, -, -, -, htrace⟩ := openDrain_done hrun hj
  refine ⟨gateway, hdone, hg, ho', ownHappenings steps, hpast, fun x => ?_⟩
  rw [htrace]
  simp [called_stop_mem_callTrace?, called_stop_not_mem_gatewayTrace?]

/-- A drain closes in one turn, and stops the instance and no other. -/
theorem closeDrain_turn {gateway : Option (ProtocolFamily × Gateway)}
    (ho : m.state.Offers Response.IsPrompt n i) (hg : PromptGateway i.id gateway) :
    ∃ r, ((closeDrain i n gateway).runTurn hostJobs m).1 = .done r ∧
      m.state.Stops [n] ((closeDrain i n gateway).runTurn hostJobs m).2.state := by
  obtain ⟨r, hdone, -⟩ := closeDrain_atOnce hg m ho
  obtain ⟨⟨steps, hrun⟩, -⟩ := (closeDrain_works i n gateway).turn m
  have hpast := (closeDrain_works i n gateway).past_eq hrun
  rw [hdone] at hrun
  obtain ⟨closed, stopped, stoppedAgain, -, -, htrace⟩ :=
    closeDrain_done (hrun.mono fun _ _ => False.elim) ho
  refine ⟨r, hdone, ownHappenings steps, hpast, fun x => ?_⟩
  rw [htrace]
  simp [called_stop_mem_callTrace?, called_stop_not_mem_gatewayTrace?, callTrace]
  tauto

/-! ## Turns of the task of a drain -/

/-- What is left of the task of a drain once it has waited for pending requests. -/
def finishDrain (i : Instance) (n T : Nat) (gateway : Option (ProtocolFamily × Gateway))
    (left : Nat) : HostProgram (Except HostError Unit) :=
  (if left = 0 then done () else note (.pendingAbandoned (.timeout i.id T left))).bind fun _ =>
    (closeDrain i n gateway).bind fun r => done (Except.asHostError r)

/-- What is left of the task of a drain while it looks at the pending requests. -/
def lookOn (i : Instance) (n T D interval looks : Nat)
    (gateway : Option (ProtocolFamily × Gateway)) : HostProgram (Except HostError Unit) :=
  (waitForPending n interval D looks).bind (finishDrain i n T gateway)

theorem lookOn_works {interval looks : Nat} {gateway : Option (ProtocolFamily × Gateway)} :
    (lookOn i n T D interval looks gateway).Works (Deed.IsDraining n) := by
  refine works_bind (waitForPending_works _ _ _ _) fun left => works_bind ?_ fun _ => ?_
  · split
    · exact works_done ()
    · exact noteAll_works _
  · exact works_bind (closeDrain_works i n gateway) fun _ => works_done _

theorem job_drain_works : (Job.program (.drain n T)).Works (Deed.IsDraining n) :=
  works_bind (drain_works n T) fun _ => works_done _

theorem finishDrain_turn (T left : Nat) {gateway : Option (ProtocolFamily × Gateway)}
    (ho : m.state.Offers Response.IsPrompt n i) (hg : PromptGateway i.id gateway) :
    ∃ r, ((finishDrain i n T gateway left).runTurn hostJobs m).1 = .done r ∧
      m.state.Stops [n] ((finishDrain i n T gateway left).runTurn hostJobs m).2.state := by
  have hclose (m : HostMachine) (ho : m.state.Offers Response.IsPrompt n i) :
      ∃ r, (((closeDrain i n gateway).bind fun r => done (Except.asHostError r)).runTurn
          hostJobs m).1 = .done r ∧ m.state.Stops [n] (((closeDrain i n gateway).bind
            fun r => done (Except.asHostError r)).runTurn hostJobs m).2.state := by
    obtain ⟨r, hdone, hstops⟩ := closeDrain_turn ho hg
    rw [runTurn_bind_done hdone]
    exact ⟨_, rfl, hstops⟩
  unfold finishDrain
  split
  · exact hclose m ho
  · refine hclose { m with state := m.state.notice _ } ?_
    exact (Host.Traffic.of_notice m.state _).offers ho

/-- The wait of a drain between two looks at the pending requests: the next look comes after
one interval at most and not after the deadline, and there will be looks enough until then. -/
structure NextLook (i : Instance) (D interval looks look next : Nat)
    (gateway : Option (ProtocolFamily × Gateway)) : Prop where
  statistics : i.conduct.hasStatistics = true
  gateway : PromptGateway i.id gateway
  later : look < next
  inTime : next ≤ D
  soon : next ≤ look + max interval 1
  looks : D < next + looks

/-- How a turn of the task of a drain stops that has to be over by a time: the drain has
ended and the instance is stopped, or requests are pending and it waits for its next look, and
has not been stopped. -/
inductive DrainTurn (i : Instance) (n T D interval : Nat) (m : HostMachine) :
    Stop Host Job (Except HostError Unit) → Host → Prop where
  | ended {r : Except HostError Unit} {h' : Host} : m.state.Stops [n] h' →
      DrainTurn i n T D interval m (.done r) h'
  | waits {next looks : Nat} {gateway : Option (ProtocolFamily × Gateway)} {h' : Host} :
      m.state.Stops [] h' → h'.pendingOf m.time n ≠ 0 →
      NextLook i D interval looks m.time next gateway →
      DrainTurn i n T D interval m
        (.waits (fun _ => false) (some next) (lookOn i n T D interval looks gateway)) h'

/-- Just the instance of a drain that has ended is stopped. -/
theorem DrainTurn.stops {interval : Nat} {stop : Stop Host Job (Except HostError Unit)}
    (ht : DrainTurn i n T D interval m stop h') :
    ∃ ns, m.state.Stops ns h' ∧ ∀ x, x ∈ ns ↔ stop.outcome?.isSome = true ∧ x = n := by
  cases ht with
  | ended hstops => exact ⟨[n], hstops, by simp [Stop.outcome?]⟩
  | waits hstops => exact ⟨[], hstops, by simp [Stop.outcome?]⟩

theorem DrainTurn.head {interval : Nat} {m₁ : HostMachine}
    {stop : Stop Host Job (Except HostError Unit)} (hs : m.state.Stops [] m₁.state)
    (htime : m₁.time = m.time) (ht : DrainTurn i n T D interval m₁ stop h') :
    DrainTurn i n T D interval m stop h' := by
  cases ht with
  | ended hstops => exact .ended (hs.trans hstops)
  | waits hstops hpending hlook =>
    rw [htime] at hpending hlook
    exact .waits (hs.trans hstops) hpending hlook

/-- A look is the last one, or it is followed by a wait that is over before it is too late for
the next one. -/
theorem lookOn_turn {interval looks : Nat} {gateway : Option (ProtocolFamily × Gateway)}
    (ho : m.state.Offers Response.IsPrompt n i) (hg : PromptGateway i.id gateway)
    (hstat : i.conduct.hasStatistics = true) (htime : m.time ≤ D) (hlooks : D < m.time + looks) :
    DrainTurn i n T D interval m ((lookOn i n T D interval looks gateway).runTurn hostJobs m).1
      ((lookOn i n T D interval looks gateway).runTurn hostJobs m).2.state := by
  have hfinish (left : Nat) :
      DrainTurn i n T D interval m ((finishDrain i n T gateway left).runTurn hostJobs m).1
        ((finishDrain i n T gateway left).runTurn hostJobs m).2.state := by
    obtain ⟨r, hdone, hstops⟩ := finishDrain_turn T left ho hg
    rw [hdone]
    exact .ended hstops
  cases looks with
  | zero => omega
  | succ looks =>
    simp only [lookOn, waitForPending, Program.bind, runTurn]
    cases hlook : lookAtPending interval D m.time (m.state.pendingOf m.time n) with
    | answered => exact hfinish 0
    | late pending => exact hfinish pending
    | again time =>
      obtain ⟨hpending, hlater, hle, hsoon⟩ := lookAtPending_again hlook
      have hover : m.isOver (fun _ => false) (some time) = false := by
        simpa [Machine.isOver] using hlater
      simp only [sleepUntil, Program.bind, runTurn, hover, Bool.false_eq_true, if_false]
      exact .waits (.of_past rfl) hpending ⟨hstat, hg, hlater, hle, hsoon, by omega⟩

/-- The first turn of the task of a drain. -/
theorem job_drain_turn (ho : m.state.Offers Response.IsPrompt n i) :
    DrainTurn i n T (m.time + T) m.state.settings.policy.drainPollIntervalMs m
      ((Job.program (.drain n T)).runTurn hostJobs m).1
      ((Job.program (.drain n T)).runTurn hostJobs m).2.state := by
  obtain ⟨j, hj, hmake⟩ := ho.there
  have hjob : (Job.program (.drain n T)).runTurn hostJobs m =
      ((drainInstance j n T).bind fun r => done (Except.asHostError r)).runTurn hostJobs m := by
    simp only [Job.program, drain, bind_eq, ask, Program.bind, runTurn, hj]
    rfl
  obtain ⟨gateway, hdone, hg, ho₁, hstops⟩ := openDrain_turn ho
  obtain ⟨⟨steps, hrun⟩, htime, -⟩ := (openDrain_works i n).turn m
  have hsettings : ((openDrain i n).runTurn hostJobs m).2.state.settings = m.state.settings :=
    congrArg Setup.settings ((openDrain_works i n).grew hrun).setup
  rw [hjob, drainInstance_congr hmake, drainInstance_parts, bind_assoc, runTurn_bind_done hdone,
    bind_assoc]
  generalize ((openDrain i n).runTurn hostJobs m).2 = m₁ at hstops ho₁ htime hsettings
  refine .head hstops htime ?_
  rw [← htime, ← hsettings]
  cases hstat : i.conduct.hasStatistics with
  | false =>
    obtain ⟨r, hclosed, hstopped⟩ := finishDrain_turn T 0 ho₁ hg
    have hfinish : ((settle i n T).bind fun _ => (closeDrain i n gateway).bind fun r =>
        done (Except.asHostError r)) = finishDrain i n T gateway 0 := by
      simp [settle, hstat, finishDrain]
    rw [hfinish, hclosed]
    exact .ended hstopped
  | true =>
    have hsettle : ((settle i n T).bind fun _ => (closeDrain i n gateway).bind fun r =>
        done (Except.asHostError r)).runTurn hostJobs m₁ =
        (lookOn i n T (m₁.time + T) m₁.state.settings.policy.drainPollIntervalMs (T + 1)
          gateway).runTurn hostJobs m₁ := by
      simp only [settle, hstat, if_true, drainPending, bind_eq, bind_assoc, ask, now, Program.bind,
        runTurn, lookOn]
      rfl
    rw [hsettle]
    exact lookOn_turn ho₁ hg hstat (Nat.le_add_right _ _) (Nat.lt_succ_self _)

end ExtensionHost
