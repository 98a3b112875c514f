import Mathlib.Data.List.Nodup
import Mathlib.Logic.Relation
import ExtensionHost.Schedule
import ExtensionHost.Proofs.Guarantee

/-!
# Turns of a machine

The programs of a machine take turns. Seen from one of its tasks that is a run: its own
steps in its turns, and steps of the others while it waits. So what holds of every run
beside others holds of what a machine does with a task.
-/

namespace ExtensionHost

open Program

variable {σ ι ρ α : Type} {jobs : Jobs σ ι ρ} {others : σ → σ → Prop}

/-- From the time and the state on, the program does to the state only what `others` says,
whatever happens while it waits. -/
def Program.Keeps (others : σ → σ → Prop) (p : Program σ ι α) (t : Nat) (s : σ) : Prop :=
  p.wp (fun _ _ => True) (fun _ => others) (fun _ _ _ => True) t s

/-- Jobs that do to the state only what `others` says, to their ends. -/
structure Jobs.Keep (jobs : Jobs σ ι ρ) (others : σ → σ → Prop) : Prop where
  program : ∀ job, (jobs.program job).Does fun _ => others
  finish : ∀ number outcome s, others s (jobs.finish number outcome s)

/-- A wait relies on nothing but that time does not go back. -/
theorem wait_keeps_later {ready : σ → Bool} {deadline : Option Nat} {p : Program σ ι α}
    {t u : Nat} {s s' : σ} (hp : (wait ready deadline p).Keeps others t s) (hle : t ≤ u) :
    (wait ready deadline p).Keeps others u s' :=
  fun t₁ s₁ hle' _ hover => hp t₁ s₁ (Nat.le_trans hle hle') trivial hover

/-! ## One turn -/

/-- What is left of a program where it stops. -/
def Stop.program : Stop σ ι α → Program σ ι α
  | .done a => .done a
  | .brokeDown message => .breakDown message
  | .waits ready deadline next => .wait ready deadline next
  | .goesOn job => .goOn job

/-- A turn is a run without others. -/
theorem runTurn_run (jobs : Jobs σ ι ρ) (p : Program σ ι α) (m : Machine σ ι ρ) :
    ∃ steps, p.Run Undisturbed m.time m.state steps (p.runTurn jobs m).1.program
      (p.runTurn jobs m).2.time (p.runTurn jobs m).2.state := by
  induction p generalizing m with
  | done a => exact ⟨[], .rest⟩
  | breakDown message => exact ⟨[], .rest⟩
  | act step next ih =>
    obtain ⟨steps, hrun⟩ := ih (step m.time m.state).1 { m with state := (step m.time m.state).2 }
    exact ⟨_, .act hrun⟩
  | wait ready deadline next ih =>
    unfold runTurn
    split
    next hover =>
      obtain ⟨steps, hrun⟩ := ih m
      exact ⟨_, .wakes (.nothing (Nat.le_refl _)) hover hrun⟩
    next => exact ⟨[], .rest⟩
  | spawn own job next ih =>
    obtain ⟨steps, hrun⟩ := ih m.nextNumber (m.spawn jobs own job)
    exact ⟨_, .spawn hrun⟩
  | goOn job => exact ⟨[], .rest⟩

/-- To the others, what a program does is done by others. -/
theorem Program.Run.seen {p q : Program σ ι α} {t u : Nat} {s s' : σ} {steps : List (Step σ)}
    (hrun : p.Run Undisturbed t s steps q u s') (hp : p.Keeps others t s) :
    ∃ xs, Meanwhile others t s xs u s' := by
  induction hrun with
  | rest => exact ⟨[], .nothing (Nat.le_refl _)⟩
  | act _ ih =>
    obtain ⟨xs, hxs⟩ := ih hp.2
    exact ⟨_, .change (Nat.le_refl _) hp.1 hxs⟩
  | waits hm =>
    obtain ⟨-, rfl, hle⟩ := hm.of_undisturbed
    exact ⟨[], .nothing hle⟩
  | wakes hm hover _ ih =>
    obtain ⟨-, rfl, hle⟩ := hm.of_undisturbed
    obtain ⟨xs, hxs⟩ := ih (hp _ _ hle trivial hover)
    exact ⟨_, Meanwhile.trans (.nothing hle) hxs⟩
  | spawn _ ih => exact ih (hp _)

/-! ## Machines -/

/-- What a task still has to do: it waits, and goes on then. -/
def Task.program (a : Task σ ι ρ) : Program σ ι ρ :=
  .wait a.ready a.deadline a.next

/-- The tasks have numbers of their own, less than that of the next one, and do to the state
only what `others` says. -/
structure Machine.Keeps (others : σ → σ → Prop) (m : Machine σ ι ρ) : Prop where
  distinct : (m.tasks.map (·.number)).Nodup
  fresh : ∀ a ∈ m.tasks, a.number < m.nextNumber
  keeps : ∀ a ∈ m.tasks, a.program.Keeps others m.time m.state

variable {m m' : Machine σ ι ρ} {a b : Task σ ι ρ}

namespace Machine.Keeps

theorem start (s : σ) : (Machine.start s : Machine σ ι ρ).Keeps others :=
  ⟨List.nodup_nil, fun _ ha => absurd ha List.not_mem_nil, fun _ ha => absurd ha List.not_mem_nil⟩

/-- No two tasks have one number. -/
theorem eq_of_number (hm : m.Keeps others) (ha : a ∈ m.tasks) (hb : b ∈ m.tasks)
    (hn : a.number = b.number) : a = b :=
  List.inj_on_of_nodup_map hm.distinct ha hb hn

theorem later (hm : m.Keeps others) {time : Nat} (s : σ) (hle : m.time ≤ time) :
    Machine.Keeps others { m with time := time, state := s } :=
  ⟨hm.distinct, hm.fresh, fun a ha => wait_keeps_later (hm.keeps a ha) hle⟩

theorem filter (hm : m.Keeps others) (f : Task σ ι ρ → Bool) :
    Machine.Keeps others { m with tasks := m.tasks.filter f } :=
  ⟨hm.distinct.sublist (List.filter_sublist.map _),
    fun a ha => hm.fresh a (List.mem_of_mem_filter ha),
    fun a ha => hm.keeps a (List.mem_of_mem_filter ha)⟩

/-- One more task, with a number that no other one has. -/
theorem snoc (hm : m.Keeps others) (hnew : ∀ b ∈ m.tasks, b.number ≠ a.number) {next : Nat}
    (hnext : m.nextNumber ≤ next) (hfresh : a.number < next)
    (hkeeps : a.program.Keeps others m.time m.state) :
    Machine.Keeps others { m with tasks := m.tasks ++ [a], nextNumber := next } := by
  refine ⟨?_, ?_, ?_⟩
  · have hnot : a.number ∉ m.tasks.map (·.number) := by
      intro hmem
      obtain ⟨b, hb, hn⟩ := List.mem_map.mp hmem
      exact hnew b hb hn
    rw [List.map_append]
    exact List.nodup_append_comm.mp (List.nodup_cons.mpr ⟨hnot, hm.distinct⟩)
  · refine List.forall_mem_append.mpr ⟨fun b hb => ?_, List.forall_mem_singleton.mpr hfresh⟩
    exact Nat.lt_of_lt_of_le (hm.fresh b hb) hnext
  · exact List.forall_mem_append.mpr ⟨hm.keeps, List.forall_mem_singleton.mpr hkeeps⟩

theorem spawn (hm : m.Keeps others) (hj : jobs.Keep others) (own : Bool) (job : ι) :
    (m.spawn jobs own job).Keeps others :=
  hm.snoc (fun b hb => Nat.ne_of_lt (hm.fresh b hb)) (Nat.le_succ _) (Nat.lt_succ_self _)
    (does_wait (hj.program job) _ _)

theorem suspend (hm : m.Keeps others) (hfresh : a.number < m.nextNumber)
    (hkeeps : a.program.Keeps others m.time m.state) : (m.suspendTask a).Keeps others :=
  (hm.filter (·.number != a.number)).snoc (fun b hb => by simpa using (List.mem_filter.mp hb).2)
    (Nat.le_refl _) hfresh hkeeps

theorem endTask (hm : m.Keeps others) (number : Nat) (outcome : Except String ρ) :
    (m.endTask jobs number outcome).Keeps others :=
  (hm.filter (·.number != number)).later _ (Nat.le_refl _)

theorem renew (hm : m.Keeps others) (hj : jobs.Keep others) (number : Nat) (job : ι) :
    (m.renewTask jobs number job).Keeps others := by
  refine ⟨?_, fun b hb => ?_, fun b hb => ?_⟩
  · have hnumbers :
        (m.renewTask jobs number job).tasks.map (·.number) = m.tasks.map (·.number) := by
      refine (List.map_map ..).trans (List.map_congr_left fun a _ => ?_)
      dsimp
      split <;> rfl
    rw [hnumbers]
    exact hm.distinct
  · obtain ⟨a, ha, rfl⟩ := List.mem_map.mp hb
    split <;> exact hm.fresh a ha
  · obtain ⟨a, ha, rfl⟩ := List.mem_map.mp hb
    split
    · exact does_wait (hj.program job) _ _
    · exact hm.keeps a ha

/-- A turn of a program that does only what `others` says. -/
theorem runTurn (hm : m.Keeps others) (hj : jobs.Keep others) {p : Program σ ι α}
    (hp : p.Keeps others m.time m.state) : (p.runTurn jobs m).2.Keeps others := by
  induction p generalizing m with
  | done a => exact hm
  | breakDown message => exact hm
  | act step next ih => exact ih _ (hm.later _ (Nat.le_refl _)) hp.2
  | wait ready deadline next ih =>
    unfold Program.runTurn
    split
    next hover => exact ih hm (hp _ _ (Nat.le_refl _) trivial hover)
    next => exact hm
  | spawn own job next ih => exact ih _ (hm.spawn hj own job) (hp _)
  | goOn job => exact hm

end Machine.Keeps

theorem runTurn_left (jobs : Jobs σ ι ρ) {p : Program σ ι α}
    (hp : p.Keeps others m.time m.state) :
    (p.runTurn jobs m).1.program.Keeps others (p.runTurn jobs m).2.time
      (p.runTurn jobs m).2.state := by
  obtain ⟨steps, hrun⟩ := runTurn_run jobs p m
  exact (hrun.sound Covers.anything hp).2

/-- A turn takes no task away. -/
theorem mem_runTurn {p : Program σ ι α} (ha : a ∈ m.tasks) : a ∈ (p.runTurn jobs m).2.tasks := by
  induction p generalizing m with
  | done a => exact ha
  | breakDown message => exact ha
  | act step next ih => exact ih _ ha
  | wait ready deadline next ih =>
    unfold runTurn
    split
    · exact ih ha
    · exact ha
  | spawn own job next ih => exact ih _ (List.mem_append_left _ ha)
  | goOn job => exact ha

/-! ## Moves of a machine -/

/-- What a machine does at once: a task has its turn, or the caller, or time passes. -/
inductive Machine.Move (jobs : Jobs σ ι ρ) (others : σ → σ → Prop) (m : Machine σ ι ρ) :
    Machine σ ι ρ → Prop where
  | task {a : Task σ ι ρ} : a ∈ m.tasks → m.isOver a.ready a.deadline = true →
      Move jobs others m (m.runTask jobs a)
  | caller {α : Type} {p : Program σ ι α} : p.Keeps others m.time m.state →
      Move jobs others m (p.runTurn jobs m).2
  | passes {time : Nat} : m.time ≤ time → Move jobs others m { m with time := time }

/-- What has become of a task since a time and a state: it waits again, or it has ended and
the state has taken note of that, or it has gone on as a job. What it has done is a run. -/
inductive Task.ComesTo (jobs : Jobs σ ι ρ) (others : σ → σ → Prop) (m : Machine σ ι ρ) :
    Task σ ι ρ → Nat → σ → Prop where
  | waits {a b : Task σ ι ρ} {t s steps} : b ∈ m.tasks → b.number = a.number →
      a.program.Run others t s steps b.program m.time m.state → ComesTo jobs others m a t s
  | ended {a : Task σ ι ρ} {t s steps r u s' xs} :
      a.program.Run others t s steps (Program.ended r) u s' →
      Meanwhile others u (jobs.finish a.number r s') xs m.time m.state →
      ComesTo jobs others m a t s
  | goneOn {a b : Task σ ι ρ} {t s steps job u s'} :
      a.program.Run others t s steps (.goOn job) u s' → b.number = a.number →
      b.program = .wait (fun _ => true) none (jobs.program job) →
      ComesTo jobs others m b u s' → ComesTo jobs others m a t s

/-- What becomes of a task, from what has become of it so far. -/
theorem Task.ComesTo.after {t u : Nat} {s s' : σ} {xs : List (Step σ)}
    (hrun : a.program.Run others t s xs b.program u s') (hn : b.number = a.number)
    (hb : b.ComesTo jobs others m u s') : a.ComesTo jobs others m t s := by
  cases hb with
  | waits hc hcn hrest => exact .waits hc (hcn.trans hn) (hrun.trans hrest)
  | ended hrest hxs => exact .ended (hrun.trans hrest) (hn ▸ hxs)
  | goneOn hrest hcn hc hcomes => exact .goneOn (hrun.trans hrest) (hcn.trans hn) hc hcomes

theorem mem_runTask (ha : a ∈ m.tasks) (hne : a.number ≠ b.number) :
    a ∈ (m.runTask jobs b).tasks := by
  have hmem : a ∈ (b.next.runTurn jobs m).2.tasks := mem_runTurn ha
  unfold Machine.runTask
  split
  next r m₁ heq =>
    rw [heq] at hmem
    exact List.mem_filter.mpr ⟨hmem, by simpa using hne⟩
  next message m₁ heq =>
    rw [heq] at hmem
    exact List.mem_filter.mpr ⟨hmem, by simpa using hne⟩
  next ready deadline next m₁ heq =>
    rw [heq] at hmem
    exact List.mem_append_left _ (List.mem_filter.mpr ⟨hmem, by simpa using hne⟩)
  next job m₁ heq =>
    rw [heq] at hmem
    exact List.mem_map.mpr ⟨a, hmem, if_neg hne⟩

/-- The turn of a task, seen from the task. -/
theorem runTask_comesTo (ha : a ∈ m.tasks) (hover : m.isOver a.ready a.deadline = true) :
    a.ComesTo jobs others (m.runTask jobs a) m.time m.state := by
  obtain ⟨steps, hturn⟩ := runTurn_run jobs a.next m
  have hmem : a ∈ (a.next.runTurn jobs m).2.tasks := mem_runTurn ha
  have hrun : a.program.Run others m.time m.state steps (a.next.runTurn jobs m).1.program
      (a.next.runTurn jobs m).2.time (a.next.runTurn jobs m).2.state :=
    .wakes (.nothing (Nat.le_refl _)) hover (hturn.mono fun _ _ => False.elim)
  unfold Machine.runTask
  generalize a.next.runTurn jobs m = turn at hmem hrun
  obtain ⟨stop, m₁⟩ := turn
  -- Where the turn stops decides what the machine does with the task.
  cases stop with
  | done r => exact .ended (r := .ok r) hrun (.nothing (Nat.le_refl _))
  | brokeDown message => exact .ended (r := .error message) hrun (.nothing (Nat.le_refl _))
  | waits ready deadline next =>
    let b : Task σ ι ρ := { a with ready := ready, deadline := deadline, next := next }
    exact .waits (b := b) (List.mem_append_right _ (List.mem_singleton_self b)) rfl hrun
  | goesOn job =>
    let b : Task σ ι ρ :=
      { a with ready := fun _ => true, deadline := none, next := jobs.program job }
    have hb : b ∈ (m₁.renewTask jobs a.number job).tasks := List.mem_map.mpr ⟨a, hmem, if_pos rfl⟩
    exact .goneOn (b := b) hrun rfl rfl (.waits hb rfl .rest)

/-- The turn of a task, seen from the others. -/
theorem runTask_seen (hj : jobs.Keep others) (hm : m.Keeps others) (ha : a ∈ m.tasks)
    (hover : m.isOver a.ready a.deadline = true) :
    (m.runTask jobs a).Keeps others ∧
      ∃ xs, Meanwhile others m.time m.state xs (m.runTask jobs a).time
        (m.runTask jobs a).state := by
  have hnext : a.next.Keeps others m.time m.state :=
    hm.keeps a ha _ _ (Nat.le_refl _) trivial hover
  obtain ⟨steps, hrun⟩ := runTurn_run jobs a.next m
  obtain ⟨xs, hxs⟩ := hrun.seen hnext
  have hkeeps : (a.next.runTurn jobs m).2.Keeps others := hm.runTurn hj hnext
  have hleft := runTurn_left jobs hnext
  have hmem : a ∈ (a.next.runTurn jobs m).2.tasks := mem_runTurn ha
  unfold Machine.runTask
  generalize a.next.runTurn jobs m = turn at hmem hxs hkeeps hleft
  obtain ⟨stop, m₁⟩ := turn
  -- The end of a task adds a step: the state takes note of it.
  have hnoted (r : Except String ρ) :
      ∃ ys, Meanwhile others m.time m.state ys m₁.time (jobs.finish a.number r m₁.state) :=
    ⟨_, hxs.trans (.change (Nat.le_refl _) (hj.finish _ _ _) (.nothing (Nat.le_refl _)))⟩
  cases stop with
  | done r => exact ⟨hkeeps.endTask a.number _, hnoted _⟩
  | brokeDown message => exact ⟨hkeeps.endTask a.number _, hnoted _⟩
  | waits ready deadline next => exact ⟨hkeeps.suspend (hkeeps.fresh a hmem) hleft, xs, hxs⟩
  | goesOn job => exact ⟨hkeeps.renew hj a.number job, xs, hxs⟩

namespace Machine.Move

/-- What a move keeps, and what it is to those who wait. -/
theorem seen (hj : jobs.Keep others) (hm : m.Keeps others) (hmove : m.Move jobs others m') :
    m'.Keeps others ∧ ∃ xs, Meanwhile others m.time m.state xs m'.time m'.state := by
  cases hmove with
  | task ha hover => exact runTask_seen hj hm ha hover
  | caller hp =>
    obtain ⟨steps, hrun⟩ := runTurn_run jobs _ m
    exact ⟨hm.runTurn hj hp, hrun.seen hp⟩
  | passes hle => exact ⟨hm.later _ hle, [], .nothing hle⟩

/-- What becomes of a task that waits. -/
theorem comesTo (hj : jobs.Keep others) (hm : m.Keeps others) (hmove : m.Move jobs others m')
    (ha : a ∈ m.tasks) : a.ComesTo jobs others m' m.time m.state := by
  obtain ⟨-, xs, hxs⟩ := hmove.seen hj hm
  -- Where it is not the turn of the task, it waits on, and the move is one of the others.
  have hstays (hmem : a ∈ m'.tasks) : a.ComesTo jobs others m' m.time m.state :=
    .waits hmem rfl (.waits hxs)
  cases hmove with
  | @task b hb hover =>
    by_cases hn : a.number = b.number
    · obtain rfl := hm.eq_of_number ha hb hn
      exact runTask_comesTo ha hover
    · exact hstays (mem_runTask ha hn)
  | caller => exact hstays (mem_runTurn ha)
  | passes => exact hstays ha

end Machine.Move

/-- A move carries on what has become of a task. -/
theorem Task.ComesTo.move {t : Nat} {s : σ} (hj : jobs.Keep others) (hm : m.Keeps others)
    (hmove : m.Move jobs others m') (ha : a.ComesTo jobs others m t s) :
    a.ComesTo jobs others m' t s := by
  induction ha with
  | waits hb hn hrun => exact .after hrun hn (hmove.comesTo hj hm hb)
  | ended hrun hxs =>
    obtain ⟨-, ys, hys⟩ := hmove.seen hj hm
    exact .ended hrun (hxs.trans hys)
  | goneOn hrun hn hb _ ih => exact .goneOn hrun hn hb ih

/-! ## Running -/

/-- What a machine does in the end. -/
def Machine.Goes (jobs : Jobs σ ι ρ) (others : σ → σ → Prop) :
    Machine σ ι ρ → Machine σ ι ρ → Prop :=
  Relation.ReflTransGen (Machine.Move jobs others)

theorem readyTask?_some {own : Bool} (ha : m.readyTask? own = some a) :
    a ∈ m.tasks ∧ m.isOver a.ready a.deadline = true := by
  have hready := List.find?_some ha
  exact ⟨List.mem_of_find?_eq_some ha, (Bool.and_eq_true_iff.mp hready).2⟩

theorem not_isOver_of_readyTask?_none (hown : m.readyTask? true = none)
    (hother : m.readyTask? false = none) (ha : a ∈ m.tasks) :
    m.isOver a.ready a.deadline = false := by
  have h₁ := List.find?_eq_none.mp hown a ha
  have h₂ := List.find?_eq_none.mp hother a ha
  cases hover : m.isOver a.ready a.deadline with
  | false => rfl
  | true => cases hown : a.own <;> simp [hown, hover] at h₁ h₂

theorem earliest?_mem {deadlines : List (Option Nat)} {time : Nat}
    (h : earliest? deadlines = some time) : some time ∈ deadlines := by
  induction deadlines generalizing time with
  | nil => cases h
  | cons d rest ih =>
    cases d with
    | none => exact List.mem_cons_of_mem _ (ih h)
    | some t =>
      simp only [earliest?] at h
      cases hrest : earliest? rest with
      | none => simp_all
      | some u =>
        rw [hrest] at h
        have := ih hrest
        grind

theorem isOver_false_time {ready : σ → Bool} {time : Nat}
    (hover : m.isOver ready (some time) = false) : m.time ≤ time := by
  have h := (Bool.or_eq_false_iff.mp hover).2
  simp at h
  omega

/-- Where nothing is over, the next deadline is still to come. -/
theorem earliest?_time {ready : σ → Bool} {deadline : Option Nat} {time : Nat}
    (hover : m.isOver ready deadline = false) (hown : m.readyTask? true = none)
    (hother : m.readyTask? false = none)
    (h : earliest? (deadline :: m.tasks.map (·.deadline)) = some time) : m.time ≤ time := by
  obtain hd | hd := List.mem_cons.mp (earliest?_mem h)
  · exact isOver_false_time (hd ▸ hover)
  · obtain ⟨a, ha, hd⟩ := List.mem_map.mp hd
    exact isOver_false_time (hd ▸ not_isOver_of_readyTask?_none hown hother ha)

theorem settle_goes (fuel : Nat) : m.Goes jobs others (m.settle jobs fuel) := by
  induction fuel generalizing m with
  | zero => exact .refl
  | succ fuel ih =>
    unfold Machine.settle
    split
    next a ha =>
      obtain ⟨hmem, hover⟩ := readyTask?_some ha
      exact .head (.task hmem hover) ih
    next => exact .refl

/-- Whatever a machine does until its caller has come to an end, it does in moves. -/
theorem runFrom_goes (hj : jobs.Keep others) {fuel : Nat} {turn : Bool} {ready : σ → Bool}
    {deadline : Option Nat} {caller : Program σ ι α} (hm : m.Keeps others)
    (hc : (wait ready deadline caller).Keeps others m.time m.state) :
    m.Goes jobs others (m.runFrom jobs fuel turn ready deadline caller).2 := by
  induction fuel generalizing turn ready deadline caller m with
  | zero => exact .refl
  | succ fuel ih =>
    -- While tasks have their turns the caller waits, and a wait relies on the time alone.
    have htask {a : Task σ ι ρ} {own turn : Bool} (ha : m.readyTask? own = some a) :
        m.Goes jobs others
          ((m.runTask jobs a).runFrom jobs fuel turn ready deadline caller).2 := by
      obtain ⟨hmem, hover⟩ := readyTask?_some ha
      obtain ⟨hm', xs, hxs⟩ := runTask_seen hj hm hmem hover
      exact .head (.task hmem hover) (ih hm' (wait_keeps_later hc hxs.time_le))
    cases turn with
    | true =>
      unfold Machine.runFrom
      split
      next a ha => exact htask ha
      next hnone =>
        split
        next hover =>
          have hcaller : caller.Keeps others m.time m.state :=
            hc _ _ (Nat.le_refl _) trivial hover
          have hmove : m.Move jobs others (caller.runTurn jobs m).2 := .caller hcaller
          obtain ⟨hm', -⟩ := hmove.seen hj hm
          have hleft := runTurn_left jobs hcaller
          generalize caller.runTurn jobs m = ended at hmove hm' hleft
          obtain ⟨stop, m₁⟩ := ended
          cases stop with
          | waits => exact .head hmove (ih hm' hleft)
          | _ => exact .single hmove
        next => exact ih hm hc
    | false =>
      unfold Machine.runFrom
      split
      next a ha => exact htask ha
      next hnone =>
        split
        next => exact ih hm hc
        next hover =>
          split
          next time htime =>
            -- Every wait is still on, so its deadline has not come.
            obtain ⟨hover, hown⟩ := Bool.or_eq_false_iff.mp (Bool.not_eq_true _ ▸ hover)
            have hle : m.time ≤ time :=
              earliest?_time hover (Option.not_isSome_iff_eq_none.mp (by simp [hown])) hnone htime
            exact .head (.passes hle) (ih (hm.later _ hle) (wait_keeps_later hc hle))
          next => exact .refl

namespace Machine.Goes

theorem seen (hj : jobs.Keep others) (hm : m.Keeps others) (hgoes : m.Goes jobs others m') :
    m'.Keeps others ∧ ∃ xs, Meanwhile others m.time m.state xs m'.time m'.state := by
  induction hgoes with
  | refl => exact ⟨hm, [], .nothing (Nat.le_refl _)⟩
  | tail _ hmove ih =>
    obtain ⟨hm₁, xs, hxs⟩ := ih
    obtain ⟨hm', ys, hys⟩ := hmove.seen hj hm₁
    exact ⟨hm', xs ++ ys, hxs.trans hys⟩

theorem comesTo (hj : jobs.Keep others) (hm : m.Keeps others) (hgoes : m.Goes jobs others m')
    (ha : a ∈ m.tasks) : a.ComesTo jobs others m' m.time m.state := by
  induction hgoes with
  | refl => exact .waits ha rfl .rest
  | tail hgoes hmove ih => exact ih.move hj (seen hj hm hgoes).1 hmove

end Machine.Goes

theorem run_goes (hj : jobs.Keep others) (hm : m.Keeps others) {caller : Program σ ι α}
    (hc : caller.Does fun _ => others) : m.Goes jobs others (m.run jobs caller).2 := by
  have hcaller : m.Goes jobs others
      (m.runFrom jobs turnLimit true (fun _ => true) none caller).2 :=
    runFrom_goes hj hm (does_wait hc _ _)
  exact hcaller.trans (settle_goes turnLimit)

/-- Where the caller and all tasks do only what `others` says, whatever becomes of a task
while a machine runs is the outcome of a run of the task beside such others. -/
theorem run_comesTo (hj : jobs.Keep others) (hm : m.Keeps others) {caller : Program σ ι α}
    (hc : caller.Does fun _ => others) (ha : a ∈ m.tasks) :
    a.ComesTo jobs others (m.run jobs caller).2 m.time m.state :=
  (run_goes hj hm hc).comesTo hj hm ha

end ExtensionHost
