import ExtensionHost.Proofs.Callers

/-!
# The roll of tasks

A task of a host that is no longer there has ended, and the host knows how. Most programs
have nothing to do with that: they set nothing off, and leave the watch and the ends of
tasks alone.
-/

namespace ExtensionHost

open Program

variable {σ ι ρ α β : Type} {jobs : Jobs σ ι ρ}
variable {t u now n : Nat} {h h' : Host} {m m' : HostMachine}
variable {a b : Task Host Job (Except HostError Unit)}

/-! ## Turns of programs -/

/-- One program after another, in one turn. -/
theorem runTurn_bind (p : Program σ ι α) (k : α → Program σ ι β) (m : Machine σ ι ρ) :
    (p.bind k).runTurn jobs m = match p.runTurn jobs m with
      | (.done a, m) => (k a).runTurn jobs m
      | (.brokeDown message, m) => (.brokeDown message, m)
      | (.waits ready deadline next, m) => (.waits ready deadline (next.bind k), m)
      | (.goesOn job, m) => (.goesOn job, m) := by
  induction p generalizing m with
  | done a => rfl
  | breakDown message => rfl
  | act step next ih => exact ih _ _
  | wait ready deadline next ih =>
    simp only [Program.bind, runTurn]
    cases m.isOver ready deadline with
    | true => exact ih m
    | false => rfl
  | spawn own job next ih => exact ih _ _
  | goOn job => rfl

/-- A wait that is over takes no turn of its own. -/
theorem runTurn_wait_of_isOver {ready : σ → Bool} {deadline : Option Nat} {p : Program σ ι α}
    {m : Machine σ ι ρ} (hover : m.isOver ready deadline = true) :
    (wait ready deadline p).runTurn jobs m = p.runTurn jobs m := by
  simp only [runTurn, if_pos hover]

/-- A program that works by itself sets nothing off, and does not go on as a job. -/
theorem Program.IsTimed.runTurn {p : Program σ ι α} (hp : p.IsTimed) (m : Machine σ ι ρ) :
    (p.runTurn jobs m).1.program.IsTimed ∧ (p.runTurn jobs m).2.time = m.time ∧
      (p.runTurn jobs m).2.tasks = m.tasks ∧ (p.runTurn jobs m).2.nextNumber = m.nextNumber := by
  induction p generalizing m with
  | done a => exact ⟨trivial, rfl, rfl, rfl⟩
  | breakDown message => exact ⟨trivial, rfl, rfl, rfl⟩
  | act step next ih => exact ih _ (hp _) _
  | wait ready deadline next ih =>
    unfold Program.runTurn
    split
    · exact ih hp.2 m
    · exact ⟨hp, rfl, rfl, rfl⟩
  | spawn | goOn => exact hp.elim

/-! ## Programs apart -/

/-- How many milliseconds there are from one tick of the watch to the next. -/
def Host.watchInterval (h : Host) : Nat :=
  h.settings.policy.hotReloadIntervalMs

/-- The watch, its interval and the ends of tasks are the same as before. -/
structure Host.SparesWatch (h h' : Host) : Prop where
  watch : h'.watch = h.watch
  interval : h'.watchInterval = h.watchInterval
  outcomes : h'.outcomes = h.outcomes

theorem Host.SparesWatch.refl (h : Host) : h.SparesWatch h :=
  ⟨rfl, rfl, rfl⟩

theorem Host.SparesWatch.trans {h'' : Host} (hs : h.SparesWatch h') (hs' : h'.SparesWatch h'') :
    h.SparesWatch h'' :=
  ⟨hs'.watch.trans hs.watch, hs'.interval.trans hs.interval, hs'.outcomes.trans hs.outcomes⟩

theorem Host.noteInvocations_sparesWatch (h : Host) (now : Nat) (d : Descriptor)
    (journaled : Bool) (invoked : List Invocation) :
    h.SparesWatch (h.noteInvocations now d journaled invoked) := by
  unfold noteInvocations
  induction invoked generalizing h with
  | nil => exact .refl h
  | cons invocation rest ih =>
    have hrest := ih (h.happen now (.constructed d.id d.version invocation journaled))
    exact ⟨hrest.watch, hrest.interval, hrest.outcomes⟩

theorem Host.construct_sparesWatch (h : Host) (now : Nat) (f : Factory) (context : Context)
    (d : Descriptor) (args : List DependencyValue) :
    h.SparesWatch (h.construct now f context d args).2 := by
  unfold construct
  dsimp only
  generalize instantiate h.settings.policy.syntheticFallback f d args (h.invocations d.id) = made
  have hs := h.noteInvocations_sparesWatch now d f.journaled made.invoked
  split <;> exact ⟨hs.watch, hs.interval, hs.outcomes⟩

theorem Host.build_sparesWatch (h : Host) (now : Nat) (d : Descriptor) :
    h.SparesWatch (h.build now d).2 := by
  have hin (h : Host) (context : Context) : h.SparesWatch (h.constructIn now context d).2 := by
    unfold constructIn
    split
    · exact .refl h
    next f _ =>
      let args := h.dependencies.arguments d.id
      let noted := h.notice (h.dependencies.notices d.id)
      have hs := noted.construct_sparesWatch now f context (d.inContext context) args
      exact ⟨hs.watch, hs.interval, hs.outcomes⟩
  unfold build
  split
  · exact .refl h
  split
  · exact ⟨rfl, rfl, rfl⟩
  next context notices _ =>
    have hs := hin (h.notice notices) context
    generalize (h.notice notices).constructIn now context d = made at hs
    rcases made with ⟨_ | _ | _, _⟩ <;> exact ⟨hs.watch, hs.interval, hs.outcomes⟩

/-- No deed has to do with the watch. -/
theorem Host.perform_sparesWatch (h : Host) (now : Nat) (d : Deed) :
    h.SparesWatch (h.perform now d) := by
  cases d with
  | build d => exact h.build_sparesWatch now d
  | beginCall number call =>
    rw [perform, beginCall]
    split <;> exact ⟨rfl, rfl, rfl⟩
  | register id number =>
    rw [perform, register]
    split <;> exact ⟨rfl, rfl, rfl⟩
  | unregister id =>
    rw [perform, unregister]
    cases h.registry.get? id <;> exact ⟨rfl, rfl, rfl⟩
  | _ => exact ⟨rfl, rfl, rfl⟩

/-- From the time and the host on, the program works by itself and leaves the watch and the
ends of tasks alone. -/
structure Program.Apart (p : HostProgram α) (t : Nat) (h : Host) : Prop where
  timed : p.IsTimed
  keeps : p.Keeps Host.SparesWatch t h

theorem Program.Works.apart {allowed : Deed → Prop} {p : HostProgram α} (hw : p.Works allowed) :
    p.Apart t h := by
  have hdoes : p.Does fun _ => Host.SparesWatch := by
    refine hw.does.mono fun {t h h'} hdid => ?_
    rcases hdid with ⟨d, -, rfl⟩
    exact h.perform_sparesWatch t d
  exact ⟨hw.timed, hdoes t h⟩

theorem Program.Apart.later {ready : Host → Bool} {deadline : Option Nat} {p : HostProgram α}
    (hp : (wait ready deadline p).Apart t h) (hle : t ≤ u) : (wait ready deadline p).Apart u h' :=
  ⟨hp.timed, wait_keeps_later hp.keeps hle⟩

/-- The task that a job is set off as. -/
def Machine.newTask (m : Machine σ ι ρ) (jobs : Jobs σ ι ρ) (own : Bool) (job : ι) :
    Task σ ι ρ :=
  ⟨m.nextNumber, own, fun _ => true, none, jobs.program job⟩

theorem mem_tasks_spawn {m : Machine σ ι ρ} {own : Bool} {job : ι} {a : Task σ ι ρ} :
    a ∈ (m.spawn jobs own job).tasks ↔ a ∈ m.tasks ∨ a = m.newTask jobs own job := by
  simp [Machine.spawn, Machine.newTask]

/-! ## The roll -/

/-- The same tasks are there, and the same have ended. -/
structure HostMachine.SameRoll (m m' : HostMachine) : Prop where
  time : m.time ≤ m'.time
  tasks : m'.tasks = m.tasks
  nextNumber : m'.nextNumber = m.nextNumber
  outcomes : m'.state.outcomes = m.state.outcomes

/-- In a state in which the same tasks have ended, the same are there. -/
theorem HostMachine.SameRoll.of_outcomes (ho : h.outcomes = m.state.outcomes) :
    m.SameRoll { m with state := h } :=
  ⟨Nat.le_refl _, rfl, rfl, ho⟩

/-- A turn of a program apart changes nothing but what is apart. -/
theorem Program.Apart.runTurn {p : HostProgram α} (hp : p.Apart m.time m.state) :
    (p.runTurn hostJobs m).1.program.Apart (p.runTurn hostJobs m).2.time
        (p.runTurn hostJobs m).2.state ∧
      HostMachine.SameRoll m (p.runTurn hostJobs m).2 ∧
      m.state.SparesWatch (p.runTurn hostJobs m).2.state := by
  rcases hp.timed.runTurn m with ⟨htimed, htime, htasks, hnext⟩
  rcases runTurn_run hostJobs p m with ⟨steps, hrun⟩
  rcases hrun.seen hp.keeps with ⟨xs, hxs⟩
  have hspares := hxs.chain Host.SparesWatch.refl Host.SparesWatch.trans hxs.of_others
  refine ⟨⟨htimed, runTurn_left hostJobs hp.keeps⟩, ?_, hspares⟩
  exact ⟨Nat.le_of_eq htime.symm, htasks, hnext, hspares.outcomes⟩

/-- Whether there is a task with a number. -/
def HostMachine.HasTask (m : HostMachine) (n : Nat) : Prop :=
  ∃ a ∈ m.tasks, a.number = n

/-- Every task whose number was given is there or has ended, and not both. -/
structure HostMachine.OnRoll (m : HostMachine) : Prop where
  keeps : m.Keeps Host.Later
  ended : ∀ n, m.state.hasEnded n = true ↔ n < m.nextNumber ∧ ¬ m.HasTask n

namespace HostMachine.OnRoll

theorem start (hh : h.outcomes = []) : OnRoll (Machine.start h) := by
  refine ⟨.start h, fun n => ?_⟩
  have hended : h.hasEnded n = false := by
    rw [Host.hasEnded, Host.outcome?, hh]
    rfl
  show h.hasEnded n = true ↔ n < 0 ∧ _
  simp [hended]

theorem sameRoll (hm : m.OnRoll) (hs : m.SameRoll m') : m'.OnRoll := by
  rcases m' with ⟨time, state, tasks, nextNumber⟩
  rcases hs with ⟨hle, rfl, rfl, hout⟩
  refine ⟨hm.keeps.later state hle, fun n => ?_⟩
  have hended : state.hasEnded n = m.state.hasEnded n := by
    unfold Host.hasEnded Host.outcome?
    exact congrArg (fun outcomes => (List.lookup n outcomes).isSome) hout
  exact hended ▸ hm.ended n

theorem hasTask_lt (hm : m.OnRoll) (hn : m.HasTask n) : n < m.nextNumber := by
  rcases hn with ⟨a, ha, rfl⟩
  exact hm.keeps.fresh a ha

/-- A task that has ended is not there. -/
theorem not_hasTask (hm : m.OnRoll) {r : TaskOutcome} (hr : m.state.outcome? n = some r) :
    ¬ m.HasTask n := by
  have hended : m.state.hasEnded n = true := by
    rw [Host.hasEnded, hr]
    rfl
  exact ((hm.ended n).mp hended).2

theorem spawn (hm : m.OnRoll) (own : Bool) (job : Job) : OnRoll (m.spawn hostJobs own job) := by
  refine ⟨hm.keeps.spawn hostJobs_keep own job, fun n => ?_⟩
  have htask : HasTask (m.spawn hostJobs own job) n ↔ m.HasTask n ∨ n = m.nextNumber := by
    simp only [HasTask, mem_tasks_spawn, or_and_right, exists_or, exists_eq_left]
    exact or_congr_right eq_comm
  have hlt := hm.hasTask_lt (n := n)
  have hended := hm.ended n
  rw [htask]
  show m.state.hasEnded n = true ↔ n < m.nextNumber + 1 ∧ _
  rw [hended]
  constructor
  · rintro ⟨hn, hnot⟩
    refine ⟨Nat.lt_succ_of_lt hn, ?_⟩
    rintro (h | rfl)
    · exact hnot h
    · exact Nat.lt_irrefl _ hn
  · rintro ⟨hn, hnot⟩
    exact ⟨Nat.lt_of_le_of_ne (Nat.le_of_lt_succ hn) fun h => hnot (.inr h), fun h => hnot (.inl h)⟩

end HostMachine.OnRoll

/-! ## After a turn -/

/-- How a program has ended, if it has. -/
def Stop.outcome? : Stop σ ι α → Option (Except String α)
  | .done a => some (.ok a)
  | .brokeDown message => some (.error message)
  | .waits _ _ _ | .goesOn _ => none

/-- What has become of a task where its turn stops, if it has not ended. -/
def Task.after? (jobs : Jobs σ ι ρ) (a : Task σ ι ρ) : Stop σ ι ρ → Option (Task σ ι ρ)
  | .waits ready deadline next =>
    some { a with ready := ready, deadline := deadline, next := next }
  | .goesOn job =>
    some { a with ready := fun _ => true, deadline := none, next := jobs.program job }
  | .done _ | .brokeDown _ => none

theorem Task.number_of_after? {a b : Task σ ι ρ} {stop : Stop σ ι ρ}
    (hb : a.after? jobs stop = some b) : b.number = a.number := by
  cases stop with
  | done | brokeDown => cases hb
  | waits | goesOn =>
    cases hb
    rfl

theorem Task.after?_eq_none {a : Task σ ι ρ} {stop : Stop σ ι ρ} :
    a.after? jobs stop = none ↔ stop.outcome?.isSome = true := by
  cases stop <;> simp [after?, Stop.outcome?]

/-- The tasks after a turn in which nothing was set off. -/
theorem mem_tasks_runTask {others : σ → σ → Prop} {m : Machine σ ι ρ} {a b : Task σ ι ρ}
    (hm : m.Keeps others) (ha : a ∈ m.tasks)
    (htasks : (a.next.runTurn jobs m).2.tasks = m.tasks) :
    b ∈ (m.runTask jobs a).tasks ↔ (b ∈ m.tasks ∧ b.number ≠ a.number) ∨
      a.after? jobs (a.next.runTurn jobs m).1 = some b := by
  unfold Machine.runTask
  generalize a.next.runTurn jobs m = turn at htasks
  rcases turn with ⟨stop, m₁⟩
  simp only at htasks
  cases stop with
  | done r => simp [Machine.endTask, htasks, Task.after?]
  | brokeDown message => simp [Machine.endTask, htasks, Task.after?]
  | waits ready deadline next =>
    simp only [Machine.suspendTask, htasks, Task.after?, List.mem_append, List.mem_filter,
      List.mem_singleton, bne_iff_ne, Option.some.injEq]
    rw [eq_comm (a := b)]
  | goesOn job =>
    simp only [Machine.renewTask, htasks, Task.after?, List.mem_map, Option.some.injEq]
    constructor
    · rintro ⟨c, hc, rfl⟩
      by_cases hn : c.number = a.number
      · rw [if_pos hn, hm.eq_of_number hc ha hn]
        exact .inr rfl
      · rw [if_neg hn]
        exact .inl ⟨hc, hn⟩
    · rintro (⟨hb, hn⟩ | rfl)
      · exact ⟨b, hb, if_neg hn⟩
      · exact ⟨a, ha, if_pos rfl⟩

theorem runTask_state (jobs : Jobs σ ι ρ) (m : Machine σ ι ρ) (a : Task σ ι ρ) :
    (m.runTask jobs a).state = match (a.next.runTurn jobs m).1.outcome? with
      | some r => jobs.finish a.number r (a.next.runTurn jobs m).2.state
      | none => (a.next.runTurn jobs m).2.state := by
  unfold Machine.runTask
  split <;> simp only [*] <;> rfl

theorem runTask_time (jobs : Jobs σ ι ρ) (m : Machine σ ι ρ) (a : Task σ ι ρ) :
    (m.runTask jobs a).time = (a.next.runTurn jobs m).2.time := by
  unfold Machine.runTask
  split <;> simp only [*] <;> rfl

theorem runTask_nextNumber (jobs : Jobs σ ι ρ) (m : Machine σ ι ρ) (a : Task σ ι ρ) :
    (m.runTask jobs a).nextNumber = (a.next.runTurn jobs m).2.nextNumber := by
  unfold Machine.runTask
  split <;> simp only [*] <;> rfl

/-- How tasks have ended after a turn. -/
theorem runTask_outcome? {k : Nat} (hs : m.SameRoll (a.next.runTurn hostJobs m).2) :
    (m.runTask hostJobs a).state.outcome? k =
      match (a.next.runTurn hostJobs m).1.outcome? with
      | some r => if k = a.number then some r else m.state.outcome? k
      | none => m.state.outcome? k := by
  rw [runTask_state]
  unfold Host.outcome?
  cases (a.next.runTurn hostJobs m).1.outcome? with
  | none => exact congrArg (List.lookup k) hs.outcomes
  | some r =>
    show List.lookup k ((a.number, r) :: (a.next.runTurn hostJobs m).2.state.outcomes) = _
    rw [hs.outcomes, List.lookup_cons]
    by_cases hk : k = a.number
    · simp [hk]
    · simp [hk, beq_false_of_ne hk]

theorem HostMachine.OnRoll.runTask (hm : m.OnRoll) (ha : a ∈ m.tasks)
    (hover : m.isOver a.ready a.deadline = true)
    (hs : m.SameRoll (a.next.runTurn hostJobs m).2) : OnRoll (m.runTask hostJobs a) := by
  rcases runTask_seen hostJobs_keep hm.keeps ha hover with ⟨hkeeps, -⟩
  refine ⟨hkeeps, fun n => ?_⟩
  have htask : HasTask (m.runTask hostJobs a) n ↔ (m.HasTask n ∧ n ≠ a.number) ∨
      (n = a.number ∧ (a.next.runTurn hostJobs m).1.outcome? = none) := by
    have hstill : (a.next.runTurn hostJobs m).1.outcome? = none ↔
        ∃ b, a.after? hostJobs (a.next.runTurn hostJobs m).1 = some b := by
      rw [← Option.isSome_iff_exists, Option.isSome_iff_ne_none, Ne, Task.after?_eq_none,
        Bool.not_eq_true, Option.isSome_eq_false_iff, Option.isNone_iff_eq_none]
    rw [hstill]
    constructor
    · rintro ⟨b, hb, rfl⟩
      rcases (mem_tasks_runTask hm.keeps ha hs.tasks).mp hb with ⟨hb, hne⟩ | hb
      · exact .inl ⟨⟨b, hb, rfl⟩, hne⟩
      · exact .inr ⟨Task.number_of_after? hb, b, hb⟩
    · rintro (⟨⟨b, hb, rfl⟩, hne⟩ | ⟨rfl, b, hb⟩)
      · exact ⟨b, (mem_tasks_runTask hm.keeps ha hs.tasks).mpr (.inl ⟨hb, hne⟩), rfl⟩
      · exact ⟨b, (mem_tasks_runTask hm.keeps ha hs.tasks).mpr (.inr hb),
          Task.number_of_after? hb⟩
  have hended := hm.ended n
  have hlt := hm.keeps.fresh a ha
  unfold Host.hasEnded at hended ⊢
  rw [htask, runTask_nextNumber, hs.nextNumber, runTask_outcome? hs]
  cases (a.next.runTurn hostJobs m).1.outcome? with
  | none =>
    by_cases hn : n = a.number
    · subst hn
      have htask : m.HasTask a.number := ⟨a, ha, rfl⟩
      simp [hended, htask]
    · simp [hended, hn]
  | some r => by_cases hn : n = a.number <;> simp [hended, hn, hlt]

end ExtensionHost
