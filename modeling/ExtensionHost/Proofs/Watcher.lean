import ExtensionHost.Proofs.Roll

/-!
# The task of the watch

The task of the watch begins, waits for a tick, compares, and goes on to the next tick.
Wherever it is, what it may have been told says which stops it can still hear, and one turn
after another keeps that up until the task has ended.
-/

namespace ExtensionHost

open Program

variable {t u n : Nat} {h h' : Host} {m m' : HostMachine} {missed : Prop}
variable {a b : Task Host Job (Except HostError Unit)} {watchers : List Nat}

/-! ## How far the task is -/

/-- The program waits for the tick of the watch that is due at a time, or goes on to do so. -/
def Program.AwaitsTickAt (p : HostProgram (Except HostError Unit)) (due : Nat) : Prop :=
  p = watchTick due ∨ p = wait (fun _ => true) none (watchTick due)

/-- The program waits for a tick of the watch, or goes on to do so. -/
def Program.AwaitsTick (p : HostProgram (Except HostError Unit)) : Prop :=
  ∃ due, p.AwaitsTickAt due

/-- The program waits for a tick of the watch, which has been told to end. But the tick is due
as well, and wins. -/
def Program.LosesStop (p : HostProgram (Except HostError Unit)) (m : HostMachine) : Prop :=
  m.state.watch.told = true ∧ m.state.ties 0 = false ∧ ∃ due ≤ m.time, p.AwaitsTickAt due

/-- There is one tick that a program waits for. -/
theorem Program.AwaitsTickAt.unique {p : HostProgram (Except HostError Unit)} {due due' : Nat}
    (hp : p.AwaitsTickAt due) (hp' : p.AwaitsTickAt due') : due = due' := by
  rcases hp with rfl | rfl <;> rcases hp' with h | h
  · exact Option.some.inj (wait.inj h).2.1
  · exact nomatch (wait.inj h).2.1
  · exact nomatch (wait.inj h).2.1
  · exact Option.some.inj (wait.inj (wait.inj h).2.2).2.1

/-- What is left of a pass of the watch: comparing, and the changes that are needed. -/
def Program.IsPass (p : HostProgram (Except HostError Unit)) (t : Nat) (h : Host) : Prop :=
  ∃ (q : HostProgram BatchResult) (next : Nat), q.Apart t h ∧ p = q.bind fun _ => watchOn next

/-- How far the task of the watch is by what is left of it, and what that says of the watch:
before its first turn it may have been told to end only by a stop that was missed, and later
it has been only by one that came after its start, which is not missed as long as the task
waits for a tick. -/
inductive Program.Watches (missed : Prop) (p : HostProgram (Except HostError Unit)) (t : Nat)
    (h : Host) : Prop where
  | begins : p = wait (fun _ => true) none (watchJob none) → (h.watch.told = true ↔ missed) →
    Watches missed p t h
  | awaits : p.AwaitsTick → h.watch.told = !h.watch.running → ¬ missed → Watches missed p t h
  | passes : p.IsPass t h → h.watch.told = !h.watch.running → (h.watch.told = true ↔ missed) →
    Watches missed p t h

/-- What holds of the watch when its task has ended. -/
structure Watch.Ended (w : Watch) (missed : Prop) (r : TaskOutcome) : Prop where
  running : w.running = true → w.told = false ∧ (r.toOption.isSome = true ↔ missed)
  stopped : w.running = false → (w.told = true ↔ missed)

/-- No job but the watch has to do with the watch. -/
theorem Job.program_works {job : Job} (hjob : ∀ tick, job ≠ .watch tick) :
    job.program.Works fun _ => True := by
  cases job with
  | handle event => exact (handle_works event).mono fun _ _ => trivial
  | drain n timeoutMs =>
    exact works_bind ((drain_works n timeoutMs).mono fun _ _ => trivial) fun _ => works_done _
  | stop id =>
    have hcall (n : Nat) : (callInstance n .stop).Works fun _ => True :=
      callInstance_works trivial fun _ => trivial
    exact works_bind (callRegistered_works hcall) fun _ => works_done _
  | watch tick => exact absurd rfl (hjob tick)

/-- What a turn of the task of the watch leaves. -/
def Stop.Watches (missed : Prop) (stop : Stop Host Job (Except HostError Unit))
    (m : HostMachine) : Prop :=
  match stop with
  | .done r => m.state.watch.Ended missed (.ok r)
  | .brokeDown message => m.state.watch.Ended missed (.error message)
  | .waits ready deadline next => (wait ready deadline next).Watches missed m.time m.state
  | .goesOn job => (wait (fun _ => true) none job.program).Watches missed m.time m.state

/-- A turn of the task of the watch, from one machine to another. -/
structure Stop.KeepsWatch (missed : Prop) (m : HostMachine)
    (turn : Stop Host Job (Except HostError Unit) × HostMachine) : Prop where
  roll : m.SameRoll turn.2
  running : turn.2.state.watch.running = m.state.watch.running
  task : turn.2.state.watch.task = m.state.watch.task
  interval : turn.2.state.watchInterval = m.state.watchInterval
  watches : turn.1.Watches missed turn.2

theorem watchOn_runTurn (next : Nat) (m : HostMachine) :
    (watchOn next).runTurn hostJobs m =
      if m.state.watch.running = true then (.goesOn (.watch (some next)), m)
      else (.done (.ok ()), m) := by
  rcases hrun : m.state.watch.running with _ | _ <;>
    simp [watchOn, Program.ask, Program.bind, runTurn, hrun]

/-- A turn in which a pass goes on. -/
theorem Program.IsPass.runTurn {p : HostProgram (Except HostError Unit)}
    (hp : p.IsPass m.time m.state) (htold : m.state.watch.told = !m.state.watch.running)
    (hmissed : m.state.watch.told = true ↔ missed) :
    Stop.KeepsWatch missed m (p.runTurn hostJobs m) := by
  rcases hp with ⟨q, next, hq, rfl⟩
  rcases hq.runTurn with ⟨hleft, hroll, ⟨hwatch, hinterval, -⟩⟩
  rw [runTurn_bind]
  generalize q.runTurn hostJobs m = turn at hleft hroll hwatch hinterval
  rcases turn with ⟨stop, m₁⟩
  rw [← hwatch] at htold hmissed
  -- Where the pass ends, or breaks down, the watch has been told to end only if it was stopped.
  have hended {r : TaskOutcome} (hr : m₁.state.watch.running = true → r.toOption = none) :
      m₁.state.watch.Ended missed r := by
    refine ⟨fun hrun => ?_, fun _ => hmissed⟩
    rw [hrun] at htold
    rw [← hmissed, htold, hr hrun]
    exact ⟨rfl, iff_of_false Bool.false_ne_true Bool.false_ne_true⟩
  have hkeeps {stop : Stop Host Job (Except HostError Unit)} (hstop : stop.Watches missed m₁) :
      Stop.KeepsWatch missed m (stop, m₁) :=
    ⟨hroll, congrArg Watch.running hwatch, congrArg Watch.task hwatch, hinterval, hstop⟩
  cases stop with
  | done result =>
    dsimp only
    rw [watchOn_runTurn]
    split
    next hrun =>
      rw [hrun] at htold
      refine hkeeps (.awaits ⟨next, .inr rfl⟩ (by rw [hrun, htold]) ?_)
      rw [← hmissed, htold]
      exact Bool.false_ne_true
    next hrun => exact hkeeps (hended fun h => absurd h hrun)
  | brokeDown message => exact hkeeps (hended fun _ => rfl)
  | waits ready deadline rest => exact hkeeps (.passes ⟨_, next, hleft, rfl⟩ htold hmissed)
  | goesOn job => exact hleft.timed.elim

/-- A task of the watch that hears that it has been told to end ends, and what it was told is
forgotten. That is a stop that was missed by an earlier task just if the watch is meant to
run. -/
theorem watchTick_runTurn_of_told {due : Nat} (htold : m.state.watch.told = true)
    (hheard : due ≤ m.time → m.state.ties 0 = true)
    (hmissed : m.state.watch.running = true ↔ missed) :
    Stop.KeepsWatch missed m ((watchTick due).runTurn hostJobs m) := by
  have hturn : ∃ ties, (watchTick due).runTurn hostJobs m = (.done (.ok ()), { m with state :=
      { m.state with watch := { m.state.watch with told := false }, ties := ties } }) := by
    by_cases hdue : due ≤ m.time
    · refine ⟨fun n => m.state.ties (n + 1), ?_⟩
      simp [watchTick, runTurn, Machine.isOver, Host.watchTurn, htold, Nat.not_lt.mpr hdue,
        hheard hdue, Host.hearTold, Host.dropTie]
    · refine ⟨m.state.ties, ?_⟩
      simp [watchTick, runTurn, Machine.isOver, Host.watchTurn, htold, Nat.not_le.mp hdue,
        Host.hearTold]
  obtain ⟨ties, hturn⟩ := hturn
  rw [hturn]
  refine ⟨.of_outcomes rfl, rfl, rfl, rfl, fun hrun => ⟨rfl, iff_of_true rfl (hmissed.mp hrun)⟩,
    fun hstop => iff_of_false Bool.false_ne_true fun h => ?_⟩
  exact Bool.eq_false_iff.mp hstop (hmissed.mpr h)

/-- A task of the watch whose tick has come, and wins over what it was told, begins a pass. -/
theorem watchTick_runTurn_of_tick {due : Nat} (hdue : due ≤ m.time)
    (hwins : m.state.watch.told = true → m.state.ties 0 = false)
    (htold : m.state.watch.told = !m.state.watch.running)
    (hmissed : m.state.watch.told = true ↔ missed) :
    Stop.KeepsWatch missed m ((watchTick due).runTurn hostJobs m) := by
  let next := tickAfter m.state.settings.policy.hotReloadIntervalMs due m.time
  have hturn : ∃ ties, (watchTick due).runTurn hostJobs m =
      (pollOnce.bind fun _ => watchOn next).runTurn hostJobs
        { m with state := { m.state with ties := ties } } := by
    cases ht : m.state.watch.told with
    | false =>
      refine ⟨m.state.ties, ?_⟩
      simp [watchTick, runTurn, Machine.isOver, Host.watchTurn, ht, hdue, next]
    | true =>
      refine ⟨fun n => m.state.ties (n + 1), ?_⟩
      simp [watchTick, runTurn, Machine.isOver, Host.watchTurn, ht, Nat.not_lt.mpr hdue,
        hwins ht, Host.dropTie, next]
  obtain ⟨ties, hturn⟩ := hturn
  let m₁ : HostMachine := { m with state := { m.state with ties := ties } }
  have hpass : (pollOnce.bind fun _ => watchOn next).IsPass m₁.time m₁.state :=
    ⟨pollOnce, next, pollOnce_works.apart, rfl⟩
  have hkept := hpass.runTurn htold hmissed
  rw [hturn]
  -- The two machines differ in the ties only, which nothing that is kept has to do with.
  exact ⟨⟨hkept.roll.time, hkept.roll.tasks, hkept.roll.nextNumber, hkept.roll.outcomes⟩,
    hkept.running, hkept.task, hkept.interval, hkept.watches⟩

/-- A turn in which the watch waits for a tick, or the tick comes, or it hears that it was
told to end. -/
theorem watchTick_runTurn {due : Nat} (htold : m.state.watch.told = !m.state.watch.running)
    (hmissed : missed ↔
      m.state.watch.told = true ∧ m.state.ties 0 = false ∧ due ≤ m.time) :
    Stop.KeepsWatch missed m ((watchTick due).runTurn hostJobs m) := by
  cases ht : m.state.watch.told with
  | true =>
    rw [ht] at htold
    by_cases hheard : due ≤ m.time → m.state.ties 0 = true
    · refine watchTick_runTurn_of_told ht hheard (iff_of_false ?_ fun h => ?_)
      · exact Bool.eq_false_iff.mp ((Bool.not_eq_true' _).mp htold.symm)
      · obtain ⟨-, htie, hdue⟩ := hmissed.mp h
        exact Bool.eq_false_iff.mp htie (hheard hdue)
    · obtain ⟨hdue, htie⟩ := Classical.not_imp.mp hheard
      have htie : m.state.ties 0 = false := Bool.eq_false_iff.mpr htie
      refine watchTick_runTurn_of_tick hdue (fun _ => htie) (ht.trans htold) ?_
      exact iff_of_true ht (hmissed.mpr ⟨ht, htie, hdue⟩)
  | false =>
    have hnot : ¬ missed := fun h => Bool.eq_false_iff.mp ht (hmissed.mp h).1
    rw [ht] at htold
    by_cases hdue : due ≤ m.time
    · refine watchTick_runTurn_of_tick hdue (fun h => ?_) (ht.trans htold) ?_
      · exact absurd h (Bool.eq_false_iff.mp ht)
      · exact iff_of_false (Bool.eq_false_iff.mp ht) hnot
    · unfold watchTick Program.runTurn
      rw [if_neg (by simp [Machine.isOver, ht, hdue])]
      exact ⟨.of_outcomes rfl, rfl, rfl, rfl, .awaits ⟨due, .inl rfl⟩ (ht.trans htold) hnot⟩

/-- The first turn of the watch. Its first tick is not due yet. -/
theorem watchJob_runTurn
    (hinterval : m.state.watch.running = true → m.state.watchInterval ≠ 0)
    (hmissed : m.state.watch.told = true ↔ missed) :
    Stop.KeepsWatch missed m ((watchJob none).runTurn hostJobs m) := by
  let due := m.time + m.state.settings.policy.hotReloadIntervalMs
  have hturn : (watchJob none).runTurn hostJobs m =
      if m.state.watch.running = true then (watchTick due).runTurn hostJobs m
      else (.done (.ok ()), m) := by
    rcases hrun : m.state.watch.running with _ | _ <;>
      simp [watchJob, Program.ask, Program.now, Program.bind, runTurn, hrun, due]
  rw [hturn]
  split
  next hrun =>
    have hdue : ¬ due ≤ m.time := by
      have hpositive : m.state.settings.policy.hotReloadIntervalMs ≠ 0 := hinterval hrun
      show ¬ m.time + m.state.settings.policy.hotReloadIntervalMs ≤ m.time
      omega
    cases htold : m.state.watch.told with
    | false =>
      refine watchTick_runTurn (by rw [hrun, htold]; rfl) ?_
      rw [← hmissed, htold]
      exact iff_of_false Bool.false_ne_true fun h => Bool.false_ne_true h.1
    | true =>
      -- What an earlier task was told ends this one.
      exact watchTick_runTurn_of_told htold (fun h => absurd h hdue)
        (iff_of_true hrun (hmissed.mp htold))
  next hrun =>
    exact ⟨.of_outcomes rfl, rfl, rfl, rfl, fun h => absurd h hrun, fun _ => hmissed⟩

/-- A turn of the task of the watch, wherever it is. A stop is missed in it if the task loses
that. -/
theorem Program.Watches.runTurn {p : HostProgram (Except HostError Unit)}
    (hp : p.Watches missed m.time m.state)
    (hinterval : m.state.watch.running = true → m.state.watchInterval ≠ 0) :
    Stop.KeepsWatch (missed ∨ p.LosesStop m) m (p.runTurn hostJobs m) := by
  have hready {q : HostProgram (Except HostError Unit)} :
      (wait (fun _ => true) none q).runTurn hostJobs m = q.runTurn hostJobs m :=
    runTurn_wait_of_isOver rfl
  -- Where a stop is missed already if the watch was told to end, nothing more can be lost.
  have hsame (hmissed : m.state.watch.told = true ↔ missed) :
      m.state.watch.told = true ↔ missed ∨ p.LosesStop m :=
    hmissed.trans (or_iff_left_of_imp fun hloses => hmissed.mp hloses.1).symm
  cases hp with
  | begins hp hmissed =>
    rw [show p.runTurn hostJobs m = (watchJob none).runTurn hostJobs m by rw [hp, hready]]
    exact watchJob_runTurn hinterval (hsame hmissed)
  | awaits hp htold hmissed =>
    obtain ⟨due, hp⟩ := hp
    have hloses : missed ∨ p.LosesStop m ↔
        m.state.watch.told = true ∧ m.state.ties 0 = false ∧ due ≤ m.time := by
      rw [or_iff_right hmissed]
      refine and_congr_right fun _ => and_congr_right fun _ => ⟨?_, fun hle => ⟨due, hle, hp⟩⟩
      rintro ⟨due', hle, hp'⟩
      exact hp.unique hp' ▸ hle
    have hturn : p.runTurn hostJobs m = (watchTick due).runTurn hostJobs m := by
      rcases hp with rfl | rfl
      · rfl
      · exact hready
    rw [hturn]
    exact watchTick_runTurn htold hloses
  | passes hp htold hmissed => exact hp.runTurn htold (hsame hmissed)

/-- A pass that waits is one at any later time. -/
theorem Program.IsPass.later {ready : Host → Bool} {deadline : Option Nat}
    {p : HostProgram (Except HostError Unit)} (hp : (wait ready deadline p).IsPass t h)
    (hle : t ≤ u) : (wait ready deadline p).IsPass u h' := by
  rcases hp with ⟨q, next, hq, heq⟩
  cases q with
  | wait => exact ⟨_, next, hq.later hle, heq⟩
  | _ => cases heq

/-- A task of the watch that waits is as far as before when the watch is as before. -/
theorem Program.Watches.later {ready : Host → Bool} {deadline : Option Nat}
    {p : HostProgram (Except HostError Unit)}
    (hp : (wait ready deadline p).Watches missed t h) (hle : t ≤ u) (hw : h'.watch = h.watch) :
    (wait ready deadline p).Watches missed u h' := by
  cases hp with
  | begins hp hmissed => exact .begins hp (hw ▸ hmissed)
  | awaits hp htold hmissed => exact .awaits hp (hw ▸ htold) hmissed
  | passes hp htold hmissed => exact .passes (hp.later hle) (hw ▸ htold) (hw ▸ hmissed)

/-- While its task is there, the watch still holds what a missed stop has told it. -/
theorem Program.Watches.told_of_missed {p : HostProgram (Except HostError Unit)}
    (hp : p.Watches missed t h) (hmissed : missed) :
    h.watch.told = true := by
  cases hp with
  | begins _ htold => exact htold.mpr hmissed
  | awaits _ _ hnot => exact absurd hmissed hnot
  | passes _ _ htold => exact htold.mpr hmissed

theorem not_awaitsTick_watchJob :
    ¬ (wait (fun _ => true) none (watchJob none)).AwaitsTick := by
  rintro ⟨due, h | h⟩
  · exact nomatch (wait.inj h).2.1
  · exact nomatch (wait.inj h).2.2

/-! ## One watcher -/

/-- Of the tasks that were set off to watch, at most the one with the number is there. It is
somewhere in the watch, or has ended. -/
structure HostMachine.WatchedBy (m : HostMachine) (watchers : List Nat) (missed : Prop) (n : Nat) :
    Prop where
  mem : n ∈ watchers
  only : ∀ a ∈ m.tasks, a.number ∈ watchers → a.number = n
  state : (∃ a ∈ m.tasks, a.number = n ∧ a.program.Watches missed m.time m.state) ∨
    ∃ r, m.state.outcome? n = some r ∧ m.state.watch.Ended missed r

/-- What a task does from its next turn on works by itself, and leaves the watch and the ends
of tasks alone. -/
structure Task.Apart (a : Task Host Job (Except HostError Unit)) (t : Nat) (h : Host) : Prop where
  timed : a.next.IsTimed
  keeps : a.program.Keeps Host.SparesWatch t h

/-- The tasks that were not set off to watch have nothing to do with the watch. -/
def HostMachine.OthersApart (m : HostMachine) (watchers : List Nat) : Prop :=
  ∀ a ∈ m.tasks, a.number ∉ watchers → a.Apart m.time m.state

theorem HostMachine.OthersApart.same (hm : m.OthersApart watchers) (hs : m.SameRoll m') :
    m'.OthersApart watchers :=
  fun a ha hn =>
    have ha := hm a (hs.tasks ▸ ha) hn
    ⟨ha.timed, wait_keeps_later ha.keeps hs.time⟩

theorem HostMachine.WatchedBy.same (hm : m.WatchedBy watchers missed n) (hs : m.SameRoll m')
    (hw : m'.state.watch = m.state.watch) : m'.WatchedBy watchers missed n := by
  refine ⟨hm.mem, fun a ha => hm.only a (hs.tasks ▸ ha), ?_⟩
  rcases hm.state with ⟨a, ha, hn, hwatches⟩ | ⟨r, hr, hended⟩
  · exact .inl ⟨a, hs.tasks ▸ ha, hn, hwatches.later hs.time hw⟩
  · have hout : m'.state.outcome? n = m.state.outcome? n := congrArg (List.lookup n) hs.outcomes
    exact .inr ⟨r, hout ▸ hr, hw ▸ hended⟩

/-- Another job that has nothing to do with the watch is set off. -/
theorem HostMachine.OthersApart.spawn (hm : m.OthersApart watchers) {own : Bool} {job : Job}
    (hjob : ∀ tick, job ≠ .watch tick) : OthersApart (m.spawn hostJobs own job) watchers := by
  intro a ha hn
  rcases mem_tasks_spawn.mp ha with ha | rfl
  · exact hm a ha hn
  · have hp : job.program.Works fun _ => True := Job.program_works hjob
    exact ⟨hp.timed, fun _ _ _ _ _ => hp.apart.keeps⟩

/-- Whoever watches goes on as before when another job is set off. -/
theorem HostMachine.WatchedBy.spawn (hm : m.WatchedBy watchers missed n) {own : Bool} {job : Job}
    (hnew : m.nextNumber ∉ watchers) :
    WatchedBy (m.spawn hostJobs own job) watchers missed n := by
  refine ⟨hm.mem, fun a ha hn => ?_, ?_⟩
  · rcases mem_tasks_spawn.mp ha with ha | rfl
    · exact hm.only a ha hn
    · exact absurd hn hnew
  · rcases hm.state with ⟨a, ha, hwatches⟩ | hended
    · exact .inl ⟨a, mem_tasks_spawn.mpr (.inl ha), hwatches⟩
    · exact .inr hended

/-- The watch is meant to run, and a task that watches is set off. -/
def HostMachine.setOffWatch (m : HostMachine) : HostMachine :=
  { m.spawn hostJobs false (.watch none) with
    state := { m.state with watch := ⟨true, m.state.watch.told, some m.nextNumber⟩ } }

theorem HostMachine.OnRoll.setOffWatch (hm : m.OnRoll) : m.setOffWatch.OnRoll :=
  (hm.spawn false (.watch none)).sameRoll (.of_outcomes rfl)

theorem HostMachine.OthersApart.setOffWatch (hm : m.OthersApart watchers) :
    m.setOffWatch.OthersApart (watchers ++ [m.nextNumber]) := by
  intro a ha hn
  rcases mem_tasks_spawn.mp ha with ha | rfl
  · have ha := hm a ha fun h => hn (List.mem_append_left _ h)
    exact ⟨ha.timed, wait_keeps_later ha.keeps (Nat.le_refl _)⟩
  · exact absurd (List.mem_append_right _ (List.mem_singleton_self _)) hn

/-- Where nothing watched, the new task is the one that does. -/
theorem HostMachine.watchedBy_setOffWatch (hnone : ∀ a ∈ m.tasks, a.number ∉ watchers)
    (hmissed : m.state.watch.told = true ↔ missed) :
    m.setOffWatch.WatchedBy (watchers ++ [m.nextNumber]) missed m.nextNumber := by
  refine ⟨List.mem_append_right _ (List.mem_singleton_self _), fun a ha hn => ?_,
    .inl ⟨_, mem_tasks_spawn.mpr (.inr rfl), rfl, .begins rfl hmissed⟩⟩
  rcases mem_tasks_spawn.mp ha with ha | rfl
  · rcases List.mem_append.mp hn with hn | hn
    · exact absurd hn (hnone a ha)
    · exact List.mem_singleton.mp hn
  · rfl

theorem runTask_watch (m : HostMachine) (a : Task Host Job (Except HostError Unit)) :
    (m.runTask hostJobs a).state.watch = (a.next.runTurn hostJobs m).2.state.watch := by
  rw [runTask_state]
  cases (a.next.runTurn hostJobs m).1.outcome? <;> rfl

theorem runTask_watchInterval (m : HostMachine) (a : Task Host Job (Except HostError Unit)) :
    (m.runTask hostJobs a).state.watchInterval =
      (a.next.runTurn hostJobs m).2.state.watchInterval := by
  rw [runTask_state]
  cases (a.next.runTurn hostJobs m).1.outcome? <;> rfl

/-- A turn of a task that has nothing to do with the watch. -/
theorem HostMachine.OthersApart.turn (hm : m.OthersApart watchers) (ha : a ∈ m.tasks)
    (hover : m.isOver a.ready a.deadline = true) (hn : a.number ∉ watchers) :
    (a.next.runTurn hostJobs m).1.program.Apart (a.next.runTurn hostJobs m).2.time
        (a.next.runTurn hostJobs m).2.state ∧
      m.SameRoll (a.next.runTurn hostJobs m).2 ∧
      m.state.SparesWatch (a.next.runTurn hostJobs m).2.state := by
  have ha := hm a ha hn
  have hnext : a.next.Apart m.time m.state :=
    ⟨ha.timed, ha.keeps _ _ (Nat.le_refl _) trivial hover⟩
  exact hnext.runTurn

/-- The others stay apart after any turn that leaves the roll as it is. -/
theorem HostMachine.OthersApart.runTask (hm : m.OthersApart watchers) (hroll : m.OnRoll)
    (ha : a ∈ m.tasks) (hover : m.isOver a.ready a.deadline = true)
    (hs : m.SameRoll (a.next.runTurn hostJobs m).2) :
    OthersApart (m.runTask hostJobs a) watchers := by
  have hle : m.time ≤ (m.runTask hostJobs a).time := runTask_time hostJobs m a ▸ hs.time
  intro b hb hn
  rcases (mem_tasks_runTask hroll.keeps ha hs.tasks).mp hb with ⟨hb, -⟩ | hafter
  · exact ⟨(hm b hb hn).timed, wait_keeps_later (hm b hb hn).keeps hle⟩
  · -- It is the task itself, which was apart before.
    rw [Task.number_of_after? hafter] at hn
    rcases hm.turn ha hover hn with ⟨hleft, -, -⟩
    have htime : (a.next.runTurn hostJobs m).2.time ≤ (m.runTask hostJobs a).time :=
      Nat.le_of_eq (runTask_time hostJobs m a).symm
    generalize a.next.runTurn hostJobs m = turn at hleft hafter htime
    rcases turn with ⟨stop, m₁⟩
    cases stop with
    | done | brokeDown => cases hafter
    | waits ready deadline next =>
      cases hafter
      exact ⟨hleft.timed.2, wait_keeps_later hleft.keeps htime⟩
    | goesOn job => exact hleft.timed.elim

/-- A turn of another task changes nothing for the watch. -/
theorem HostMachine.WatchedBy.other (hm : m.WatchedBy watchers missed n) (hroll : m.OnRoll)
    (ha : a ∈ m.tasks) (hn : a.number ∉ watchers)
    (hs : m.SameRoll (a.next.runTurn hostJobs m).2)
    (hw : (a.next.runTurn hostJobs m).2.state.watch = m.state.watch) :
    WatchedBy (m.runTask hostJobs a) watchers missed n := by
  have hne : n ≠ a.number := fun h => hn (h ▸ hm.mem)
  have hwatch : (m.runTask hostJobs a).state.watch = m.state.watch := (runTask_watch m a).trans hw
  have hle : m.time ≤ (m.runTask hostJobs a).time := runTask_time hostJobs m a ▸ hs.time
  refine ⟨hm.mem, fun b hb hb' => ?_, ?_⟩
  · rcases (mem_tasks_runTask hroll.keeps ha hs.tasks).mp hb with ⟨hb, -⟩ | hafter
    · exact hm.only b hb hb'
    · exact absurd (Task.number_of_after? hafter ▸ hb') hn
  · rcases hm.state with ⟨b, hb, rfl, hwatches⟩ | ⟨r, hr, hended⟩
    · refine .inl ⟨b, ?_, rfl, hwatches.later hle hwatch⟩
      exact (mem_tasks_runTask hroll.keeps ha hs.tasks).mpr (.inl ⟨hb, hne⟩)
    · refine .inr ⟨r, ?_, hwatch ▸ hended⟩
      rw [runTask_outcome? hs]
      cases (a.next.runTurn hostJobs m).1.outcome? with
      | none => exact hr
      | some _ => exact (if_neg hne).trans hr

/-- A turn of the task that watches. -/
theorem HostMachine.WatchedBy.turn (hm : m.WatchedBy watchers missed n) (hroll : m.OnRoll)
    (hinterval : m.state.watch.running = true → m.state.watchInterval ≠ 0) (ha : a ∈ m.tasks)
    (hover : m.isOver a.ready a.deadline = true) (hn : a.number ∈ watchers) :
    Stop.KeepsWatch (missed ∨ a.program.LosesStop m) m (a.next.runTurn hostJobs m) := by
  have han : a.number = n := hm.only a ha hn
  rcases hm.state with ⟨b, hb, hbn, hwatches⟩ | ⟨r, hr, -⟩
  · obtain rfl := hroll.keeps.eq_of_number ha hb (han.trans hbn.symm)
    exact runTurn_wait_of_isOver hover ▸ hwatches.runTurn hinterval
  · exact absurd ⟨a, ha, han⟩ (hroll.not_hasTask hr)

/-- After its turn the task still watches, or has ended. -/
theorem HostMachine.WatchedBy.runTask (hm : m.WatchedBy watchers missed n) (hroll : m.OnRoll)
    (hinterval : m.state.watch.running = true → m.state.watchInterval ≠ 0) (ha : a ∈ m.tasks)
    (hover : m.isOver a.ready a.deadline = true) (hn : a.number ∈ watchers) :
    WatchedBy (m.runTask hostJobs a) watchers (missed ∨ a.program.LosesStop m) n := by
  rcases hm.turn hroll hinterval ha hover hn with ⟨hs, -, -, -, hwatches⟩
  have han : a.number = n := hm.only a ha hn
  have hmem {b} := mem_tasks_runTask (b := b) hroll.keeps ha hs.tasks
  have hout := runTask_outcome? (k := n) hs
  have hstate := runTask_state hostJobs m a
  have htime := runTask_time hostJobs m a
  refine ⟨hm.mem, fun b hb hb' => ?_, ?_⟩
  · rcases hmem.mp hb with ⟨hb, -⟩ | hafter
    · exact hm.only b hb hb'
    · exact (Task.number_of_after? hafter).trans han
  · have hwatch := runTask_watch m a
    generalize a.next.runTurn hostJobs m = turn at hwatches hmem hout hstate htime hwatch
    rcases turn with ⟨stop, m₁⟩
    simp only at hstate htime hwatch
    cases stop with
    | done r => exact .inr ⟨_, hout.trans (if_pos han.symm), hwatch ▸ hwatches⟩
    | brokeDown message => exact .inr ⟨_, hout.trans (if_pos han.symm), hwatch ▸ hwatches⟩
    | waits ready deadline next =>
      refine .inl ⟨_, hmem.mpr (.inr rfl), han, ?_⟩
      rw [htime, hstate]
      exact hwatches
    | goesOn job =>
      refine .inl ⟨_, hmem.mpr (.inr rfl), han, ?_⟩
      rw [htime, hstate]
      exact hwatches

end ExtensionHost
