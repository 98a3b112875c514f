import ExtensionHost.Proofs.DrainReport
import ExtensionHost.Proofs.PromptDrain

/-!
# Drains at their deadline

The drain of all instances gives up at the very time at which a drain gives up waiting for
pending requests. So where nothing but pending requests takes time, a drain that has waited
for them to the end is left with one turn to go: the instance has not been stopped when the
report is made, and is stopped at the same instant, if the task has its turn.
-/

namespace ExtensionHost

open Program

variable {α : Type} {t u n T D : Nat} {h h' : Host} {m : HostMachine} {i j : Instance}

/-! ## The tasks of the drains -/

namespace HostMachine

variable {own : Bool} {job : α → Job} {as : List α}

theorem mem_tasks_spawnAll {a : Task Host Job (Except HostError Unit)} :
    a ∈ (m.spawnAll own job as).tasks ↔ a ∈ m.tasks ∨
      ∃ e ∈ numberFrom m.nextNumber as, a = ⟨e.1, own, fun _ => true, none, (job e.2).program⟩ := by
  induction as generalizing m with
  | nil => simp [spawnAll, numberFrom]
  | cons x as ih =>
    rw [spawnAll, ih, mem_tasks_spawn, or_assoc]
    simp [numberFrom, Machine.spawn, Machine.newTask, hostJobs]

theorem OnRoll.spawnAll (hm : m.OnRoll) : (m.spawnAll own job as).OnRoll := by
  induction as generalizing m with
  | nil => exact hm
  | cons x as ih => exact ih (hm.spawn own (job x))

theorem spawnAll_nextNumber : (m.spawnAll own job as).nextNumber = m.nextNumber + as.length := by
  induction as generalizing m with
  | nil => rfl
  | cons x as ih =>
    rw [spawnAll, ih, List.length_cons]
    simp only [Machine.spawn]
    omega

end HostMachine

theorem numberFrom_unique {first k : Nat} {as : List α} {a b : α}
    (ha : (k, a) ∈ numberFrom first as) (hb : (k, b) ∈ numberFrom first as) : a = b := by
  have hnodup : ((numberFrom first as).map (·.1)).Nodup := by
    rw [numberFrom_fst]
    exact List.nodup_range'
  exact congrArg Prod.snd (List.inj_on_of_nodup_map hnodup ha hb rfl)

theorem HostMachine.mem_drainOrder {k : Nat} (hk : (k, n, i) ∈ m.drainTasks) :
    (n, i) ∈ m.state.drainOrder := by
  have hmem : (n, i) ∈ m.drainTasks.map (·.2) := List.mem_map.mpr ⟨_, hk, rfl⟩
  rwa [drainTasks, numberFrom_snd] at hmem

theorem HostMachine.exists_drainTask (hmem : (n, i) ∈ m.state.drainOrder) :
    ∃ k, (k, n, i) ∈ m.drainTasks := by
  have hmap : (n, i) ∈ m.drainTasks.map (·.2) := by rwa [drainTasks, numberFrom_snd]
  obtain ⟨⟨k, _⟩, hk, rfl⟩ := List.mem_map.mp hmap
  exact ⟨k, hk⟩

theorem HostMachine.mem_drainIds {k : Nat} (hk : (k, n, i) ∈ m.drainTasks) :
    (k, i.id) ∈ m.drainIds :=
  List.mem_map.mpr ⟨_, hk, rfl⟩

/-- No instance is drained in two tasks. -/
theorem Host.Names.drainTasks_iff (hn : m.state.Names) {k k' n' : Nat}
    (hk : (k, n, i) ∈ m.drainTasks) (hk' : (k', n', j) ∈ m.drainTasks) : n = n' ↔ k = k' := by
  constructor
  · rintro rfl
    have hi := (hn.of_mem_drainOrder (HostMachine.mem_drainOrder hk)).2
    have hj := (hn.of_mem_drainOrder (HostMachine.mem_drainOrder hk')).2
    cases hi.symm.trans hj
    have heq := List.inj_on_of_nodup_map hn.drainIds_nodup (HostMachine.mem_drainIds hk)
      (HostMachine.mem_drainIds hk') rfl
    exact congrArg Prod.fst heq
  · rintro rfl
    exact congrArg Prod.fst (numberFrom_unique hk hk')

/-- A task of a drain that was set off at a time: no time has passed and it has had no turn,
or it waits for its next look at the pending requests, some of which it has seen. -/
inductive DrainTask (i : Instance) (n T start interval now : Nat) (seen : Nat → Prop) :
    Task Host Job (Except HostError Unit) → Prop where
  | fresh {number : Nat} {own : Bool} : now = start →
      DrainTask i n T start interval now seen
        ⟨number, own, fun _ => true, none, Job.program (.drain n T)⟩
  | waiting {number look next looks : Nat} {own : Bool}
      {gateway : Option (ProtocolFamily × Gateway)} : seen look →
      NextLook i (start + T) interval looks look next gateway → now ≤ next →
      DrainTask i n T start interval now seen
        ⟨number, own, fun _ => false, some next, lookOn i n T (start + T) interval looks gateway⟩

theorem DrainTask.works {interval : Nat} {seen : Nat → Prop}
    {a : Task Host Job (Except HostError Unit)} (ha : DrainTask i n T t interval u seen a) :
    a.next.Works (Deed.IsDraining n) := by
  cases ha with
  | fresh => exact job_drain_works
  | waiting => exact lookOn_works

/-- The turn of a task of a drain, once its wait is over. -/
theorem DrainTask.turn {seen : Nat → Prop} {a : Task Host Job (Except HostError Unit)}
    (ha : DrainTask i n T t m.state.settings.policy.drainPollIntervalMs m.time seen a)
    (ho : m.state.Offers Response.IsPrompt n i) (hover : m.isOver a.ready a.deadline = true) :
    DrainTurn i n T (t + T) m.state.settings.policy.drainPollIntervalMs m
      (a.next.runTurn hostJobs m).1 (a.next.runTurn hostJobs m).2.state := by
  cases ha with
  | fresh htime =>
    subst htime
    exact job_drain_turn ho
  | @waiting _ _ next _ _ _ _ hlook hnow =>
    have hle : next ≤ m.time := of_decide_eq_true hover
    have htime : m.time = next := Nat.le_antisymm hnow hle
    exact lookOn_turn ho hlook.gateway hlook.statistics (htime ▸ hlook.inTime)
      (htime ▸ hlook.looks)

/-- What is left of a task of a drain after a turn. -/
theorem DrainTurn.after? {interval : Nat} {seen : Nat → Prop}
    {stop : Stop Host Job (Except HostError Unit)} {a b : Task Host Job (Except HostError Unit)}
    (ht : DrainTurn i n T (t + T) interval m stop h') (hb : a.after? hostJobs stop = some b)
    (hseen : h'.pendingOf m.time n ≠ 0 → seen m.time) :
    DrainTask i n T t interval m.time seen b := by
  cases ht with
  | ended => cases hb
  | waits _ hpending hlook =>
    cases hb
    exact .waiting (hseen hpending) hlook (Nat.le_of_lt hlook.later)

/-- What has become of a machine on which the drains of all instances of another one have
been set off: all its tasks are drains, and just the instances whose drains have ended have
been stopped. -/
structure Drains (m₀ : HostMachine) (T : Nat) (seen : Nat → Nat → Prop) (m : HostMachine) :
    Prop where
  onRoll : m.OnRoll
  settings : m.state.settings = m₀.state.settings
  offers : ∀ k n i, (k, n, i) ∈ m₀.drainTasks → m.state.Offers Response.IsPrompt n i
  given : ∀ e ∈ m₀.drainTasks, e.1 < m.nextNumber
  tasks : ∀ a ∈ m.tasks, ∃ n i, (a.number, n, i) ∈ m₀.drainTasks ∧
    DrainTask i n T m₀.time m₀.state.settings.policy.drainPollIntervalMs m.time (seen n) a
  stopped : ∃ ns, m₀.state.Stops ns m.state ∧
    ∀ k n i, (k, n, i) ∈ m₀.drainTasks → (n ∈ ns ↔ m.state.hasEnded k = true)

theorem runTask_instance? {a : Task Host Job (Except HostError Unit)} :
    (m.runTask hostJobs a).state.instance? n =
      (a.next.runTurn hostJobs m).2.state.instance? n := by
  rw [runTask_state]
  cases (a.next.runTurn hostJobs m).1.outcome? <;> rfl

theorem runTask_hasEnded {a : Task Host Job (Except HostError Unit)} {k : Nat}
    (hs : m.SameRoll (a.next.runTurn hostJobs m).2) :
    (m.runTask hostJobs a).state.hasEnded k = true ↔
      m.state.hasEnded k = true ∨
        (a.next.runTurn hostJobs m).1.outcome?.isSome = true ∧ k = a.number := by
  unfold Host.hasEnded
  rw [runTask_outcome? hs]
  cases (a.next.runTurn hostJobs m).1.outcome? with
  | none => simp
  | some r => by_cases hk : k = a.number <;> simp [hk]

namespace Drains

variable {m₀ : HostMachine} {seen : Nat → Nat → Prop}

theorem start (hroll : m.OnRoll) (htasks : m.tasks = [])
    (ho : ∀ n i, (n, i) ∈ m.state.drainOrder → m.state.Offers Response.IsPrompt n i) :
    Drains m T seen (m.drainingAll T) where
  onRoll := hroll.spawnAll
  settings := by rw [HostMachine.drainingAll, HostMachine.spawnAll_state]
  offers k n i hmem := by
    rw [HostMachine.drainingAll, HostMachine.spawnAll_state]
    exact ho n i (HostMachine.mem_drainOrder hmem)
  given e hmem := by
    have hnumber : e.1 ∈ (numberFrom m.nextNumber m.state.drainOrder).map (·.1) :=
      List.mem_map.mpr ⟨e, hmem, rfl⟩
    rw [numberFrom_fst, List.mem_range'_1] at hnumber
    rw [HostMachine.drainingAll, HostMachine.spawnAll_nextNumber]
    exact hnumber.2
  tasks a ha := by
    rw [HostMachine.drainingAll, HostMachine.mem_tasks_spawnAll, htasks] at ha
    obtain hno | ⟨⟨k, n, i⟩, hmem, rfl⟩ := ha
    · exact absurd hno List.not_mem_nil
    · refine ⟨n, i, hmem, .fresh ?_⟩
      rw [HostMachine.drainingAll, HostMachine.spawnAll_time]
  stopped := by
    rw [HostMachine.drainingAll, HostMachine.spawnAll_state]
    refine ⟨[], .of_past rfl, fun k n i hmem => ?_⟩
    have hnumber : k ∈ (numberFrom m.nextNumber m.state.drainOrder).map (·.1) :=
      List.mem_map.mpr ⟨_, hmem, rfl⟩
    rw [numberFrom_fst, List.mem_range'_1] at hnumber
    have hended := hroll.ended k
    simp only [List.not_mem_nil, false_iff]
    intro hk
    exact absurd (hended.mp hk).1 (Nat.not_lt.mpr hnumber.1)

/-- A turn of a task stops the instance of that task, or sees its pending requests. -/
theorem task (hn : m₀.state.Names) (hd : Drains m₀ T seen m)
    {a : Task Host Job (Except HostError Unit)} (ha : a ∈ m.tasks)
    (hover : m.isOver a.ready a.deadline = true)
    (hsees : ∀ n, (m.runTask hostJobs a).state.pendingOf (m.runTask hostJobs a).time n ≠ 0 →
      seen n (m.runTask hostJobs a).time) : Drains m₀ T seen (m.runTask hostJobs a) := by
  obtain ⟨n, i, hmem, htask⟩ := hd.tasks a ha
  rw [← hd.settings] at htask
  have hturn := htask.turn (hd.offers _ n i hmem) hover
  obtain ⟨⟨steps, hrun⟩, htime, hroll⟩ := htask.works.turn m
  have hsettings : (a.next.runTurn hostJobs m).2.state.settings = m₀.state.settings :=
    (congrArg Setup.settings (htask.works.grew hrun).setup).trans hd.settings
  have hkeeps (n' : Nat) (i' : Instance) (ho : m.state.Offers Response.IsPrompt n' i') :
      (a.next.runTurn hostJobs m).2.state.Offers Response.IsPrompt n' i' :=
    htask.works.turn_offers (fun _ => Deed.IsDraining.sparesRegistry) ho
  have hstate := runTask_state hostJobs m a
  have hnow : (m.runTask hostJobs a).time = m.time := by rw [runTask_time, htime]
  refine ⟨hd.onRoll.runTask ha hover hroll, ?_, ?_, ?_, ?_, ?_⟩
  · rw [hstate]
    cases (a.next.runTurn hostJobs m).1.outcome? <;> exact hsettings
  · intro k n' i' hmem'
    have ho := hkeeps n' i' (hd.offers k n' i' hmem')
    rw [hstate]
    cases (a.next.runTurn hostJobs m).1.outcome? with
    | none => exact ho
    | some r => exact ⟨ho.there, ho.registered, ho.calls, ho.gateways⟩
  · intro e he
    rw [runTask_nextNumber, hroll.nextNumber]
    exact hd.given e he
  · intro b hb
    rw [hnow]
    obtain ⟨hb, -⟩ | hb := (mem_tasks_runTask hd.onRoll.keeps ha hroll.tasks).mp hb
    · exact hd.tasks b hb
    · have hpending := hsees n
      rw [hnow, Host.pendingOf, runTask_instance?] at hpending
      rw [Task.number_of_after? hb, ← hd.settings]
      exact ⟨n, i, hmem, hturn.after? hb hpending⟩
  · obtain ⟨ns, hns, hstopped⟩ := hd.stopped
    obtain ⟨ns', hns', hended⟩ := hturn.stops
    refine ⟨ns ++ ns', ?_, ?_⟩
    · rw [hstate]
      cases (a.next.runTurn hostJobs m).1.outcome? <;> exact hns.trans hns'
    · intro k n' i' hmem'
      rw [List.mem_append, hstopped k n' i' hmem', hended, runTask_hasEnded hroll,
        hn.drainTasks_iff hmem' hmem]

theorem traffic (hd : Drains m₀ T seen m) (hs : m.state.Traffic h) :
    Drains m₀ T seen { m with state := h } where
  onRoll := hd.onRoll.sameRoll (.of_outcomes hs.outcomes)
  settings := (congrArg Setup.settings hs.setup).trans hd.settings
  offers k n i hmem := hs.offers (hd.offers k n i hmem)
  given := hd.given
  tasks := hd.tasks
  stopped := by
    obtain ⟨ns, hns, hstopped⟩ := hd.stopped
    refine ⟨ns, ?_, fun k n i hmem => ?_⟩
    · rw [← List.append_nil ns]
      exact hns.trans (.of_past hs.past)
    · rw [hstopped k n i hmem, ← hs.hasEnded k]

/-- Time passes only where every drain has had its first turn. -/
theorem passes (hd : Drains m₀ T seen m) {time : Nat}
    (hidle : ∀ a ∈ m.tasks, m.isOver a.ready a.deadline = false) (hle : m.time ≤ time)
    (hnext : ∀ a ∈ m.tasks, ∀ d ∈ a.deadline, time ≤ d) :
    Drains m₀ T seen { m with time := time } where
  onRoll := hd.onRoll.sameRoll ⟨hle, rfl, rfl, rfl⟩
  settings := hd.settings
  offers := hd.offers
  given := hd.given
  tasks a ha := by
    obtain ⟨n, i, hmem, htask⟩ := hd.tasks a ha
    have hnot := hidle a ha
    have hby := hnext a ha
    refine ⟨n, i, hmem, ?_⟩
    cases htask with
    | fresh => cases hnot
    | waiting hseen hlook _ => exact .waiting hseen hlook (hby _ rfl)
  stopped := hd.stopped

end Drains

/-! ## The caller of the drains -/

/-- Where a caller stands that drains all instances: those it does not wait for have ended,
and once it has its report, those in the report that are unfinished have not. -/
inductive DrainingAll (m₀ : HostMachine) (T : Nat) (seen : Nat → Nat → Prop) :
    Caller Host Job (Except HostError Unit) DrainReport → Prop where
  | waits {l : List Job} {rest : List (Nat × String)} {r : DrainReport} {ready : Host → Bool}
      {next : HostProgram DrainReport} {m : HostMachine} : Drains m₀ T seen m →
      m.time ≤ m₀.time + T → r.Accounts rest → (rest.map (·.1)).Nodup →
      (∀ e ∈ rest, e ∈ m₀.drainIds) → (∀ e ∈ m₀.drainIds, e ∈ rest ∨ m.state.hasEnded e.1 = true) →
      collectDrains (m₀.time + T) T rest.length rest r = wait ready (some (m₀.time + T)) next →
      DrainingAll m₀ T seen ⟨l, .waits ready (some (m₀.time + T)) next, m⟩
  | done {l : List Job} {r : DrainReport} {m : HostMachine} : Drains m₀ T seen m →
      (∀ id ∈ r.unfinished, m.time = m₀.time + T ∧ ∃ k, (k, id) ∈ m₀.drainIds) →
      (∀ k id, (k, id) ∈ m₀.drainIds → (id ∈ r.unfinished ↔ m.state.hasEnded k = false)) →
      DrainingAll m₀ T seen ⟨l, .done r, m⟩

section DrainingAll

variable {m₀ : HostMachine} {seen : Nat → Nat → Prop} {rest : List (Nat × String)} {r : DrainReport}

theorem Collected.drainingAll {l : List Job} {stop : Stop Host Job DrainReport}
    {ns : List Notice} (hc : Collected m (m₀.time + T) T rest r stop) (hn : m₀.state.Names)
    (hd : Drains m₀ T seen m) (htime : m.time ≤ m₀.time + T) (ha : r.Accounts rest)
    (hnodup : (rest.map (·.1)).Nodup) (hsub : ∀ e ∈ rest, e ∈ m₀.drainIds)
    (hall : ∀ e ∈ m₀.drainIds, e ∈ rest ∨ m.state.hasEnded e.1 = true) :
    DrainingAll m₀ T seen ⟨l, stop, { m with state := m.state.notice ns }⟩ := by
  have hd₁ := hd.traffic (.of_notice m.state ns)
  have hleft {rest' : List (Nat × String)} {r' : DrainReport}
      (hcollects : Collects m.state (rest, r) (rest', r')) :
      (∀ e ∈ rest', e ∈ m₀.drainIds) ∧
        ∀ e ∈ m₀.drainIds, e ∈ rest' ∨ m.state.hasEnded e.1 = true := by
    obtain ⟨hsub', hall'⟩ := hcollects.left
    refine ⟨fun e he => hsub e (hsub' e he), fun e he => ?_⟩
    exact (hall e he).elim (hall' e) .inr
  cases hc with
  | @all r' hcollects =>
    obtain ⟨ha', -⟩ := ha.collects hnodup hcollects
    obtain ⟨-, hall'⟩ := hleft hcollects
    refine .done hd₁ ?_ ?_
    · rw [ha'.unfinished]
      exact nofun
    · intro k id hk
      have hended : m.state.hasEnded k = true := (hall' _ hk).resolve_left List.not_mem_nil
      show id ∈ r'.unfinished ↔ m.state.hasEnded k = false
      simp [ha'.unfinished, hended]
  | @abandoned rest' r' hcollects hne hnone hlate =>
    obtain ⟨ha', -⟩ := ha.collects hnodup hcollects
    obtain ⟨hsub', hall'⟩ := hleft hcollects
    have hunfinished (id : String) : id ∈ r'.abandon.unfinished ↔ ∃ k, (k, id) ∈ rest' := by
      rw [ha'.abandon.mem_iff]
      simp
    refine .done hd₁ ?_ ?_
    · intro id hid
      obtain ⟨k, hk⟩ := (hunfinished id).mp hid
      exact ⟨Nat.le_antisymm htime hlate, k, hsub' _ hk⟩
    · intro k id hk
      rw [hunfinished]
      constructor
      · rintro ⟨k', hk'⟩
        cases List.inj_on_of_nodup_map hn.drainIds_nodup hk (hsub' _ hk') rfl
        exact Host.firstEnded?_none hnone hk'
      · intro hnot
        have hrest := (hall' _ hk).resolve_right fun hended =>
          Bool.false_ne_true (hnot.symm.trans hended)
        exact ⟨k, hrest⟩
  | waits hcollects _ hwait =>
    obtain ⟨ha', -, hnodup'⟩ := ha.collects hnodup hcollects
    obtain ⟨hsub', hall'⟩ := hleft hcollects
    exact .waits hd₁ htime ha' hnodup' hsub' hall' hwait

/-- The report is made at the deadline at the latest, and until then the caller and the tasks
go on as drains do. -/
theorem drainAll_drainingAll {c : Caller Host Job (Except HostError Unit) DrainReport}
    (hn : m₀.state.Names) (hroll : m₀.OnRoll) (htasks : m₀.tasks = [])
    (ho : ∀ n i, (n, i) ∈ m₀.state.drainOrder → m₀.state.Offers Response.IsPrompt n i)
    (hseen : ∀ c, (m₀.call hostJobs (drainAll T)).Reaches hostJobs
      (Machine.Onward hostJobs Host.Traffic) c → ∀ n,
        c.machine.state.pendingOf c.machine.time n ≠ 0 → seen n c.machine.time)
    (hreach : (m₀.call hostJobs (drainAll T)).Reaches hostJobs
      (Machine.Onward hostJobs Host.Traffic) c) : DrainingAll m₀ T seen c := by
  induction hreach with
  | refl =>
    obtain ⟨hcollected, ns, hstate⟩ := collectDrains_runTurn (m₀.time + T) T m₀.drainIds
      (.start (m₀.drainIds.map (·.2))) HostMachine.drainIds_numbers (m₀.drainingAll T)
    unfold Machine.call Caller.turn
    rw [drainAll_runTurn, hstate]
    refine hcollected.drainingAll hn (.start hroll htasks ho) ?_ (.start hn.drainIds_nodup)
      HostMachine.drainIds_numbers (fun _ he => he) fun _ he => .inl he
    rw [HostMachine.drainingAll, HostMachine.spawnAll_time]
    exact Nat.le_add_right _ _
  | @tail c c' hreach hstep ih =>
    have hsees := hseen c' (hreach.tail hstep)
    cases hstep with
    | between honward =>
      cases ih with
      | waits hd htime ha hnodup hsub hall hwait =>
        cases honward with
        | @task a hmem hover =>
          obtain ⟨n, i, -, htask⟩ := hd.tasks a hmem
          obtain ⟨-, hturned, hsame⟩ := htask.works.turn _
          refine .waits (hd.task hn hmem hover hsees) ?_ ha hnodup hsub (fun e he => ?_) hwait
          · rw [runTask_time, hturned]
            exact htime
          · exact (hall e he).imp_right fun hended =>
              (runTask_hasEnded hsame).mpr (.inl hended)
        | passes _ hidle hle hby hnext =>
          exact .waits (hd.passes hidle hle hnext) (hby _ rfl) ha hnodup hsub hall hwait
        | altered htraffic =>
          refine .waits (hd.traffic htraffic) htime ha hnodup hsub (fun e he => ?_) hwait
          exact (hall e he).imp_right (htraffic.hasEnded e.1).trans
    | @wakes l ready deadline next m hover =>
      cases ih with
      | @waits _ rest r _ _ _ hd htime ha hnodup hsub hall hwait =>
        obtain ⟨hcollected, ns, hstate⟩ := collectDrains_runTurn (m₀.time + T) T rest r hnodup m
        unfold Caller.turn
        rw [collectDrains_wakes hwait hover, hstate]
        exact hcollected.drainingAll hn hd htime ha hnodup hsub hall

end DrainingAll

/-! ## What the deadline misses -/

/-- A shutdown of a host without a watch is a drain of all instances. -/
theorem shutdownHost_call (hwatch : m.state.watch.running = false) :
    m.call hostJobs shutdownHost =
      m.call hostJobs (drainAll m.state.settings.policy.drainTimeoutMs) := by
  simp only [Machine.call, Caller.turn, shutdownHost, stopWatch, ask, bind_eq, Program.bind,
    runTurn, setsOff, hwatch]
  rfl

/-- A machine on which an instance lacks one turn to be stopped: the deadline has come this
very instant, the drain has waited for pending requests until then, and the turn that its
task is ready for stops the instance. -/
structure OneTurnShort (m₀ : HostMachine) (T n : Nat) (i : Instance) (m : HostMachine) : Prop where
  waited : i.conduct.hasStatistics = true
  atDeadline : m.time = m₀.time + T
  turn : ∃ a ∈ m.tasks, m.isOver a.ready a.deadline = true ∧
    .called n .stop ∈ (m.runTask hostJobs a).state.since m₀.state

/-- A drain that has not ended at its deadline has seen pending requests one interval before
at the earliest, and has its last turn ahead. -/
theorem Drains.oneTurnShort {m₀ : HostMachine} {seen : Nat → Nat → Prop} {k : Nat} (hT : 0 < T)
    (hd : Drains m₀ T seen m) (hmem : (k, n, i) ∈ m₀.drainTasks)
    (hnot : m.state.hasEnded k = false) (htime : m.time = m₀.time + T) :
    OneTurnShort m₀ T n i m ∧ ∃ look, seen n look ∧ look < m₀.time + T ∧
      m₀.time + T ≤ look + max m₀.state.settings.policy.drainPollIntervalMs 1 := by
  have htask : m.HasTask k := by
    have hended := hd.onRoll.ended k
    rw [hnot] at hended
    by_contra hno
    exact Bool.false_ne_true (hended.mpr ⟨hd.given _ hmem, hno⟩)
  obtain ⟨a, ha, rfl⟩ := htask
  obtain ⟨n', i', hmem', hdrain⟩ := hd.tasks a ha
  cases numberFrom_unique hmem' hmem
  have hturn := (hd.settings ▸ hdrain).turn (hd.offers _ n i hmem)
  obtain ⟨ns, hns, -⟩ := hd.stopped
  have hstate := runTask_state hostJobs m a
  cases hdrain with
  | fresh hstart => omega
  | @waiting number look next looks own gateway hseen hlook hnow =>
    have hnext : next = m₀.time + T := Nat.le_antisymm hlook.inTime (htime ▸ hnow)
    have hover : m.isOver (fun _ => false) (some next) = true :=
      decide_eq_true (show next ≤ m.time by omega)
    refine ⟨⟨hlook.statistics, htime, _, ha, hover, ?_⟩, look, hseen, hnext ▸ hlook.later,
      hnext ▸ hlook.soon⟩
    specialize hturn hover
    generalize (Program.runTurn hostJobs (lookOn i n T (m₀.time + T) _ looks gateway) m).1 = stop
      at hturn hstate
    cases hturn with
    | ended hstops =>
      have hall := hns.trans hstops
      rw [hstate]
      exact hall.mem_since.mpr (List.mem_append_right ns List.mem_cons_self)
    | waits _ _ hagain =>
      -- There is no time left for one more look.
      have hlater := hagain.later
      have hle := hagain.inTime
      omega

/-- Where nothing but pending requests takes time, the drain of all instances, and so a
shutdown, has stopped just the instances that are not reported as unfinished, whatever the
requests are and whichever of the tasks and the caller have their turns first. The others lack
one turn, and had requests pending in the last interval before the deadline. -/
theorem drainAll_stops {p : HostProgram DrainReport} {r : DrainReport}
    {c : Caller Host Job (Except HostError Unit) DrainReport}
    (hp : p = drainAll T ∨ p = shutdownHost ∧ m.state.watch.running = false ∧
      T = m.state.settings.policy.drainTimeoutMs)
    (hT : 0 < T) (htasks : m.tasks = []) (hroll : m.OnRoll) (hn : m.state.Names)
    (ho : ∀ n i, (n, i) ∈ m.state.registered → m.state.Offers Response.IsPrompt n i)
    (hreach : (m.call hostJobs p).Reaches hostJobs (Machine.Onward hostJobs Host.Traffic) c)
    (hdone : c.stop = .done r) :
    (r.unfinished = [] ↔ ∀ n i, (n, i) ∈ m.state.registered →
        .called n .stop ∈ c.machine.state.since m.state) ∧
      ∀ n i, (n, i) ∈ m.state.registered →
        (.called n .stop ∈ c.machine.state.since m.state ↔ i.id ∉ r.unfinished) ∧
        (i.id ∈ r.unfinished → OneTurnShort m T n i c.machine ∧
          ∃ c', (m.call hostJobs p).Reaches hostJobs (Machine.Onward hostJobs Host.Traffic) c' ∧
            c'.machine.state.pendingOf c'.machine.time n ≠ 0 ∧ c'.machine.time < m.time + T ∧
            m.time + T ≤ c'.machine.time + max m.state.settings.policy.drainPollIntervalMs 1) := by
  have hcall : m.call hostJobs p = m.call hostJobs (drainAll T) := by
    obtain rfl | ⟨rfl, hwatch, rfl⟩ := hp
    · rfl
    · exact shutdownHost_call hwatch
  rw [hcall] at hreach ⊢
  have horder {n : Nat} {i : Instance} :
      (n, i) ∈ m.state.drainOrder ↔ (n, i) ∈ m.state.registered :=
    (List.mergeSort_perm _ _).mem_iff
  let seen (n look : Nat) : Prop := ∃ c, (m.call hostJobs (drainAll T)).Reaches hostJobs
    (Machine.Onward hostJobs Host.Traffic) c ∧ c.machine.time = look ∧
      c.machine.state.pendingOf c.machine.time n ≠ 0
  have hdraining : DrainingAll m T seen c := drainAll_drainingAll hn hroll htasks
    (fun n i hmem => ho n i (horder.mp hmem))
    (fun c' hreach' n hpending => ⟨c', hreach', rfl, hpending⟩) hreach
  obtain ⟨l, stop, m₁⟩ := c
  cases hdone
  cases hdraining with
  | done hd hlate hunfinished =>
    obtain ⟨ns, hns, hstopped⟩ := hd.stopped
    have hstops (n : Nat) (i : Instance) (hmem : (n, i) ∈ m.state.registered) :
        .called n .stop ∈ m₁.state.since m.state ↔ i.id ∉ r.unfinished := by
      obtain ⟨k, hk⟩ := HostMachine.exists_drainTask (horder.mpr hmem)
      rw [hns.mem_since, hstopped k n i hk, hunfinished k i.id (HostMachine.mem_drainIds hk),
        Bool.not_eq_false]
    refine ⟨⟨?_, ?_⟩, ?_⟩
    · intro hnil n i hmem
      rw [hstops n i hmem, hnil]
      exact List.not_mem_nil
    · intro hall
      apply List.eq_nil_iff_forall_not_mem.mpr
      intro id hid
      obtain ⟨-, k, hk⟩ := hlate id hid
      obtain ⟨⟨k', n, i⟩, htask, heq⟩ := List.mem_map.mp hk
      cases heq
      have hregistered := horder.mp (HostMachine.mem_drainOrder htask)
      exact (hstops n i hregistered).mp (hall n i hregistered) hid
    · intro n i hmem
      refine ⟨hstops n i hmem, fun hid => ?_⟩
      obtain ⟨k, hk⟩ := HostMachine.exists_drainTask (horder.mpr hmem)
      have hnot := (hunfinished k i.id (HostMachine.mem_drainIds hk)).mp hid
      obtain ⟨hshort, look, ⟨c', hreach', rfl, hpending⟩, hlook⟩ :=
        hd.oneTurnShort hT hk hnot (hlate i.id hid).1
      exact ⟨hshort, c', hreach', hpending, hlook⟩

/-- An instance that answers at once, with some requests. -/
private def prompt (id : String) (counters : Counters) : Instance :=
  .ofBlueprint ⟨.at "busy" id, true, { Conduct.idle with hasStatistics := true }, counters⟩ none

/-- A host with two instances that answer at once. The first one has a request that is never
answered. -/
private def stuckHost : Host :=
  { Host.busy with
    instances := [prompt "a" ⟨1, 1, 0⟩, prompt "b" .zero]
    registry := ⟨[("a", 0), ("b", 1)], []⟩ }

private theorem stuckHost_names : stuckHost.Names :=
  .of_records (by decide +kernel) (by decide +kernel)

private theorem stuckHost_registered :
    stuckHost.registered = [(0, prompt "a" ⟨1, 1, 0⟩), (1, prompt "b" .zero)] :=
  rfl

private theorem stuckHost_offers (hmem : (n, i) ∈ stuckHost.registered) :
    stuckHost.Offers Response.IsPrompt n i := by
  simp only [stuckHost_registered, List.mem_cons, List.not_mem_nil, or_false,
    Prod.mk.injEq] at hmem
  rcases hmem with ⟨rfl, rfl⟩ | ⟨rfl, rfl⟩ <;>
    exact ⟨⟨_, rfl, rfl⟩, rfl, fun _ _ _ => ⟨rfl, nofun⟩, nofun⟩

private theorem stuckHost_call :
    (Machine.start stuckHost).call hostJobs (drainAll 50) =
      (Machine.start stuckHost).call hostJobs (drainEach stuckHost.registered 50) :=
  drainAll_call_of_ordered (by decide +kernel)

/-- Of the two instances one has been stopped when the report is made, and the other one lacks
a turn. -/
theorem drainAll_stops_but_stuck :
    ∃ c r, ((Machine.start stuckHost).call hostJobs shutdownHost).Reaches hostJobs
        (Machine.Onward hostJobs Host.Traffic) c ∧
      c.stop = .done r ∧ r.completed = ["b"] ∧ r.unfinished = ["a"] ∧
      (∃ n i, (n, i) ∈ stuckHost.registered ∧ i.id = "b" ∧
        .called n .stop ∈ c.machine.state.since stuckHost) ∧
      ∃ n i, (n, i) ∈ stuckHost.registered ∧ i.id = "a" ∧
        OneTurnShort (Machine.start stuckHost) 50 n i c.machine := by
  have hrun : ((Machine.start stuckHost).run hostJobs
      (drainEach stuckHost.registered 50)).1.value? =
        some ⟨["a", "b"], ["b"], [], ["a"], true⟩ := by
    decide +kernel
  obtain ⟨c, hreach, hstop⟩ := run_reaches rfl hrun
  have hcall : (Machine.start stuckHost).call hostJobs shutdownHost =
      (Machine.start stuckHost).call hostJobs (drainAll 50) :=
    shutdownHost_call rfl
  rw [← stuckHost_call, ← hcall] at hreach
  obtain ⟨-, hall⟩ := drainAll_stops (.inr ⟨rfl, rfl, rfl⟩) (by decide) rfl (.start rfl)
    stuckHost_names (fun n i => stuckHost_offers) hreach hstop
  have ha := hall 0 _ List.mem_cons_self
  have hb := hall 1 _ (List.mem_cons_of_mem _ List.mem_cons_self)
  refine ⟨c, _, hreach, hstop, rfl, rfl, ⟨1, _, List.mem_cons_of_mem _ List.mem_cons_self, rfl, ?_⟩,
    0, _, List.mem_cons_self, rfl, (ha.2 (by decide +kernel)).1⟩
  exact hb.1.mpr (by decide +kernel)

/-- An instance with a request that is never answered is reported as unfinished and has not
been stopped, although it answers at once: by a drain of all instances, and so by a shutdown. -/
theorem drainAll_misses_stuck :
    ∃ c r, ((Machine.start stuckHost).call hostJobs (drainAll 50)).Reaches hostJobs
        (Machine.Onward hostJobs Host.Traffic) c ∧
      ((Machine.start stuckHost).call hostJobs shutdownHost).Reaches hostJobs
        (Machine.Onward hostJobs Host.Traffic) c ∧
      c.stop = .done r ∧ r.unfinished = ["a"] ∧ stuckHost.registry.get? "a" = some 0 ∧
      .called 0 .stop ∉ c.machine.state.since stuckHost := by
  have hrun : ((Machine.start stuckHost).runFrom hostJobs (99 + 1) true (fun _ => true) none
      (drainEach stuckHost.registered 50)).1.value? =
        some ⟨["a", "b"], ["b"], [], ["a"], true⟩ := by
    decide +kernel
  have hstopped : .called 0 .stop ∉ ((Machine.start stuckHost).runFrom hostJobs (99 + 1) true
      (fun _ => true) none (drainEach stuckHost.registered 50)).2.state.since stuckHost := by
    decide +kernel
  obtain ⟨c, hreach, hstop, hmachine⟩ := runFrom_value_reaches rfl hrun
  rw [← stuckHost_call] at hreach
  refine ⟨c, _, hreach, ?_, hstop, rfl, by decide +kernel, ?_⟩
  · rw [shutdownHost_call rfl]
    exact hreach
  · rw [hmachine]
    exact hstopped

end ExtensionHost
