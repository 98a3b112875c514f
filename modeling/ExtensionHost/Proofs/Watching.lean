import Mathlib.Data.List.Perm.Subperm
import ExtensionHost.Proofs.Scan
import ExtensionHost.Proofs.Watcher

/-!
# Starting and stopping the watch

A caller starts and stops the watch of a host, and awaits each stop before its next call.
Meanwhile other jobs are set off, the tasks have their turns in any order, and the host
changes in everything that has nothing to do with the watch. At most one task watches then,
and none once a stop is over.

A stop tells the task to end. One that waits for a tick hears that and it is forgotten, unless
the tick is due by then as well: either of the two may win, and if the tick does, the task
compares once more. A task that has not begun to wait yet, or that is comparing, ends because
the watch is not meant to run any more, and what it was told is left for the next one, which
ends at its first wait.
-/

namespace ExtensionHost

open Program

variable {t u n : Nat} {h h' : Host} {m m' : HostMachine} {missed : Prop}
variable {a b : Task Host Job (Except HostError Unit)}

/-! ## Calls -/

/-- Where the caller of a watch is: its last call has started the watch, or is stopping it,
with what is left of that, or has stopped it. -/
inductive WatchCaller where
  | started
  | stopping (rest : HostProgram Unit)
  | stopped

/-- Whether the last call is over. -/
def WatchCaller.IsFree : WatchCaller → Prop
  | .stopping _ => False
  | .started | .stopped => True

instance : DecidablePred WatchCaller.IsFree
  | .stopping _ => .isFalse id
  | .started | .stopped => .isTrue trivial

theorem WatchCaller.not_isFree {c : WatchCaller} {rest : HostProgram Unit}
    (hc : c = .stopping rest) : ¬ c.IsFree := by
  rw [hc]
  exact id

/-- Where a caller is whose stop of the watch has had a turn. -/
def WatchCaller.of : Stop Host Job Unit → WatchCaller
  | .waits ready deadline next => .stopping (.wait ready deadline next)
  | .done _ | .brokeDown _ | .goesOn _ => .stopped

/-- A host with the caller of its watch, the numbers of the tasks that were set off to
watch, and whether a stop has been missed: whether none of them waited for a tick when it
came, or one did but the tick has won over it. -/
structure WatchedHost where
  machine : HostMachine
  caller : WatchCaller
  watchers : List Nat
  missed : Prop

namespace WatchedHost

variable {w w' : WatchedHost}

/-- The tasks that watch. -/
def watching (w : WatchedHost) : List (Task Host Job (Except HostError Unit)) :=
  w.machine.tasks.filter fun a => w.watchers.contains a.number

/-- Whether the watch is meant to run. -/
def isRunning (w : WatchedHost) : Bool :=
  w.machine.state.watch.running

/-- The task of the watch has broken down. -/
def BrokeDown (w : WatchedHost) : Prop :=
  ∃ number message, w.machine.state.watch.task = some number ∧
    w.machine.state.outcome? number = some (.error message)

/-- The caller starts the watch. -/
def start (w : WatchedHost) : WatchedHost :=
  let m := (startWatch.runTurn hostJobs w.machine).2
  { w with
    machine := m
    caller := .started
    watchers := w.watchers ++
      List.range' w.machine.nextNumber (m.nextNumber - w.machine.nextNumber) }

/-- A stop of the watch has a turn. -/
def stopTurn (w : WatchedHost) (p : HostProgram Unit) : WatchedHost :=
  let turn := p.runTurn hostJobs w.machine
  { w with machine := turn.2, caller := .of turn.1 }

/-- The watch is meant to run, but nothing waits for its tick. -/
def MissesStop (w : WatchedHost) : Prop :=
  w.isRunning = true ∧ ¬ ∃ a ∈ w.watching, a.program.AwaitsTick

/-- The caller stops the watch. -/
def stop (w : WatchedHost) : WatchedHost :=
  { w.stopTurn stopWatch with missed := w.missed ∨ w.MissesStop }

/-- A task has its turn. One that watches may lose a stop in it. -/
def turn (w : WatchedHost) (a : Task Host Job (Except HostError Unit)) : WatchedHost :=
  { w with
    machine := w.machine.runTask hostJobs a
    missed := w.missed ∨ a.number ∈ w.watchers ∧ a.program.LosesStop w.machine }

/-- What happens at once: a call begins, or the one that stops the watch goes on; another
job is set off; a task has its turn; time passes; the host is altered, but for its watch, the
interval of that and the ends of tasks. -/
inductive Step (w : WatchedHost) : WatchedHost → Prop where
  | starts : w.caller.IsFree → Step w w.start
  | stops : w.caller.IsFree → Step w w.stop
  | goesOn {rest : HostProgram Unit} : w.caller = .stopping rest → Step w (w.stopTurn rest)
  | setOff {own : Bool} {job : Job} : (∀ tick, job ≠ .watch tick) →
    Step w { w with machine := w.machine.spawn hostJobs own job }
  | turn {a : Task Host Job (Except HostError Unit)} : a ∈ w.machine.tasks →
    w.machine.isOver a.ready a.deadline = true → Step w (w.turn a)
  | passes {time : Nat} : w.machine.time ≤ time →
    Step w { w with machine := { w.machine with time := time } }
  | alters {h : Host} : w.machine.state.SparesWatch h →
    Step w { w with machine := { w.machine with state := h } }

/-- What is reached from a host on which nothing was set off and no watch was started. -/
inductive Reached : WatchedHost → Prop where
  | fresh {h : Host} : h.watch = ⟨false, false, none⟩ → h.outcomes = [] →
    Reached ⟨Machine.start h, .stopped, [], False⟩
  | step {w w' : WatchedHost} : Reached w → Step w w' → Reached w'

end WatchedHost

/-! ## The calls -/

/-- What is left of a stop that waits for the task of the watch to end. -/
def awaitWatch (n : Nat) : HostProgram Unit :=
  (awaitTask n none).bind fun outcome => noteAll (watchEndNotices outcome)

/-- A turn of a stop that waits: it is over once the task has ended. -/
theorem awaitWatch_runTurn (n : Nat) (m : HostMachine) :
    ∃ notices, (awaitWatch n).runTurn hostJobs m =
      if m.state.hasEnded n = true then (.done (), { m with state := m.state.notice notices })
      else (.waits (·.hasEnded n) none ((Program.ask (·.outcome? n)).bind fun outcome =>
        noteAll (watchEndNotices outcome)), m) := by
  refine ⟨watchEndNotices (m.state.outcome? n), ?_⟩
  rcases hended : m.state.hasEnded n with _ | _ <;>
    simp [awaitWatch, awaitTask, Program.bind, runTurn, Machine.isOver, hended, Program.ask,
      noteAll, Program.change]

/-- The watch is not meant to run any more, and its task has been told to end. -/
def HostMachine.toldToEnd (m : HostMachine) : HostMachine :=
  { m with state := { m.state with watch := ⟨false, true, none⟩ } }

theorem HostMachine.sameRoll_toldToEnd (m : HostMachine) : m.SameRoll m.toldToEnd :=
  .of_outcomes rfl

theorem stopWatch_runTurn (m : HostMachine) :
    stopWatch.runTurn hostJobs m =
      if m.state.watch.running = true then
        match m.state.watch.task with
        | none => (.done (), m.toldToEnd)
        | some n => (awaitWatch n).runTurn hostJobs m.toldToEnd
      else (.done (), m) := by
  rcases hrun : m.state.watch.running with _ | _
  · simp [stopWatch, Program.ask, Program.bind, runTurn, hrun]
  · rcases htask : m.state.watch.task with _ | n <;>
      simp [stopWatch, Program.ask, Program.step, Program.bind, runTurn, hrun, htask, awaitWatch,
        HostMachine.toldToEnd]

theorem startWatch_runTurn (m : HostMachine) :
    (startWatch.runTurn hostJobs m).2 =
      if m.state.settings.policy.hotReloadIntervalMs = 0 then
        { m with state := m.state.notice [.watchIntervalZero] }
      else if m.state.watch.running = true then m
      else m.setOffWatch := by
  by_cases hzero : m.state.settings.policy.hotReloadIntervalMs = 0
  · simp [startWatch, Program.ask, Program.bind, runTurn, hzero, note, noteAll, Program.change]
  · rcases hrun : m.state.watch.running with _ | _ <;>
      simp [startWatch, Program.ask, Program.bind, runTurn, hzero, hrun, Program.change,
        HostMachine.setOffWatch, Machine.spawn]

/-! ## Starts and stops -/

namespace WatchedHost

variable {w w' : WatchedHost}

/-- Where a host with its watch is: nothing watches and the watch is not meant to run, or one
task watches as it is meant to, or the caller waits until that task has ended. -/
inductive Phase (w : WatchedHost) : Prop where
  | off : w.caller.IsFree → w.isRunning = false →
    (w.machine.state.watch.told = true ↔ w.missed) →
    (∀ a ∈ w.machine.tasks, a.number ∉ w.watchers) → Phase w
  | on {n : Nat} : w.caller = .started → w.isRunning = true →
    w.machine.state.watch.task = some n →
    w.machine.WatchedBy w.watchers w.missed n → Phase w
  | ending {n : Nat} : w.caller = .stopping (awaitWatch n) → w.isRunning = false →
    w.machine.WatchedBy w.watchers w.missed n → Phase w

/-- What holds of a host with its watch at every time. -/
structure Sound (w : WatchedHost) : Prop where
  roll : w.machine.OnRoll
  given : ∀ n ∈ w.watchers, n < w.machine.nextNumber
  apart : w.machine.OthersApart w.watchers
  interval : w.isRunning = true → w.machine.state.watchInterval ≠ 0
  phase : w.Phase

theorem Sound.fresh (hw : h.watch = ⟨false, false, none⟩) (ho : h.outcomes = []) :
    Sound ⟨Machine.start h, .stopped, [], False⟩ := by
  have hrun : h.watch.running = false := congrArg Watch.running hw
  refine ⟨.start ho, fun _ hn => absurd hn List.not_mem_nil,
    fun _ ha => absurd ha List.not_mem_nil, fun hrunning => ?_,
    .off trivial hrun ?_ fun _ _ => List.not_mem_nil⟩
  · cases hrun.symm.trans hrunning
  · show h.watch.told = true ↔ False
    rw [hw]
    exact iff_false_intro Bool.false_ne_true

/-- A change that has nothing to do with the watch. -/
theorem Sound.same (hs : w.Sound) (hroll : w.machine.SameRoll m')
    (hw : m'.state.watch = w.machine.state.watch)
    (hi : m'.state.watchInterval = w.machine.state.watchInterval) :
    Sound { w with machine := m' } := by
  have hrunning : m'.state.watch.running = w.machine.state.watch.running :=
    congrArg Watch.running hw
  refine ⟨hs.roll.sameRoll hroll, fun n hn => hroll.nextNumber ▸ hs.given n hn,
    hs.apart.same hroll, fun hrun => hi ▸ hs.interval (hrunning.symm.trans hrun), ?_⟩
  cases hs.phase with
  | off hfree hrun hmissed hnone =>
    exact .off hfree (hrunning.trans hrun) (hw ▸ hmissed) fun a ha => hnone a (hroll.tasks ▸ ha)
  | on hcaller hrun htask hby =>
    exact .on hcaller (hrunning.trans hrun) (hw ▸ htask) (hby.same hroll hw)
  | ending hcaller hrun hby => exact .ending hcaller (hrunning.trans hrun) (hby.same hroll hw)

/-- Another job is set off. -/
theorem Sound.setOff (hs : w.Sound) {own : Bool} {job : Job} (hjob : ∀ tick, job ≠ .watch tick) :
    Sound { w with machine := w.machine.spawn hostJobs own job } := by
  have hnew : w.machine.nextNumber ∉ w.watchers := fun hn => Nat.lt_irrefl _ (hs.given _ hn)
  refine ⟨hs.roll.spawn own job, fun n hn => Nat.lt_succ_of_lt (hs.given n hn),
    hs.apart.spawn hjob, hs.interval, ?_⟩
  cases hs.phase with
  | off hfree hrun hmissed hnone =>
    refine .off hfree hrun hmissed fun a ha => ?_
    rcases mem_tasks_spawn.mp ha with ha | rfl
    · exact hnone a ha
    · exact hnew
  | on hcaller hrun htask hby => exact .on hcaller hrun htask (hby.spawn hnew)
  | ending hcaller hrun hby => exact .ending hcaller hrun (hby.spawn hnew)

/-- After a turn in which nothing was set off and the watch is meant to run as before, only the
phase is in question. -/
theorem Sound.of_turn (hs : w.Sound) (ha : a ∈ w.machine.tasks)
    (hover : w.machine.isOver a.ready a.deadline = true)
    (hroll : w.machine.SameRoll (a.next.runTurn hostJobs w.machine).2)
    (hrunning : (w.turn a).isRunning = w.isRunning)
    (hi : (a.next.runTurn hostJobs w.machine).2.state.watchInterval =
      w.machine.state.watchInterval) (hphase : (w.turn a).Phase) : (w.turn a).Sound := by
  refine ⟨hs.roll.runTask ha hover hroll, fun n hn => ?_,
    hs.apart.runTask hs.roll ha hover hroll, fun hrun => ?_, hphase⟩
  · show n < (w.machine.runTask hostJobs a).nextNumber
    rw [runTask_nextNumber, hroll.nextNumber]
    exact hs.given n hn
  · show (w.machine.runTask hostJobs a).state.watchInterval ≠ 0
    rw [runTask_watchInterval, hi]
    exact hs.interval (hrunning.symm.trans hrun)

/-- The task that watches has its turn. -/
theorem Sound.turn_watcher (hs : w.Sound) (ha : a ∈ w.machine.tasks)
    (hover : w.machine.isOver a.ready a.deadline = true) (hn : a.number ∈ w.watchers) :
    (w.turn a).Sound := by
  have hwatch := runTask_watch w.machine a
  have hmissed : (w.turn a).missed = (w.missed ∨ a.program.LosesStop w.machine) := by
    show (w.missed ∨ a.number ∈ w.watchers ∧ a.program.LosesStop w.machine) = _
    rw [and_iff_right hn]
  cases hs.phase with
  | off _ _ _ hnone => exact absurd hn (hnone a ha)
  | on hcaller hrun htask hby =>
    rcases hby.turn hs.roll hs.interval ha hover hn with ⟨hroll, hrunning, hnumber, hi, -⟩
    rw [← hwatch] at hrunning hnumber
    refine hs.of_turn ha hover hroll hrunning hi
      (.on hcaller (hrunning.trans hrun) (hnumber.trans htask) ?_)
    rw [hmissed]
    exact hby.runTask hs.roll hs.interval ha hover hn
  | ending hcaller hrun hby =>
    rcases hby.turn hs.roll hs.interval ha hover hn with ⟨hroll, hrunning, -, hi, -⟩
    rw [← hwatch] at hrunning
    refine hs.of_turn ha hover hroll hrunning hi (.ending hcaller (hrunning.trans hrun) ?_)
    rw [hmissed]
    exact hby.runTask hs.roll hs.interval ha hover hn

/-- Another task has its turn. -/
theorem Sound.turn_other (hs : w.Sound) (ha : a ∈ w.machine.tasks)
    (hover : w.machine.isOver a.ready a.deadline = true) (hn : a.number ∉ w.watchers) :
    (w.turn a).Sound := by
  rcases hs.apart.turn ha hover hn with ⟨-, hroll, ⟨hw, hi, -⟩⟩
  have hsame : (w.machine.runTask hostJobs a).state.watch = w.machine.state.watch :=
    (runTask_watch w.machine a).trans hw
  have hrunning := congrArg Watch.running hsame
  have hmissed : (w.turn a).missed = w.missed :=
    propext (or_iff_left fun hloses => hn hloses.1)
  apply hs.of_turn ha hover hroll hrunning hi
  cases hs.phase with
  | off hfree hrun htold hnone =>
    refine .off hfree (hrunning.trans hrun) (hmissed ▸ hsame ▸ htold) fun b hb => ?_
    rcases (mem_tasks_runTask hs.roll.keeps ha hroll.tasks).mp hb with ⟨hb, -⟩ | hafter
    · exact hnone b hb
    · exact Task.number_of_after? hafter ▸ hn
  | on hcaller hrun htask hby =>
    refine .on hcaller (hrunning.trans hrun) (hsame ▸ htask) ?_
    rw [hmissed]
    exact hby.other hs.roll ha hn hroll hw
  | ending hcaller hrun hby =>
    refine .ending hcaller (hrunning.trans hrun) ?_
    rw [hmissed]
    exact hby.other hs.roll ha hn hroll hw

/-- A task has its turn. -/
theorem Sound.turn (hs : w.Sound) (ha : a ∈ w.machine.tasks)
    (hover : w.machine.isOver a.ready a.deadline = true) : (w.turn a).Sound := by
  by_cases hn : a.number ∈ w.watchers
  · exact hs.turn_watcher ha hover hn
  · exact hs.turn_other ha hover hn

/-- A start that does not set a task off, because the watch runs or has no interval. -/
theorem Sound.start_same (hs : w.Sound) (hfree : w.caller.IsFree)
    (hroll : w.machine.SameRoll (startWatch.runTurn hostJobs w.machine).2)
    (hw : (startWatch.runTurn hostJobs w.machine).2.state.watch = w.machine.state.watch)
    (hi : (startWatch.runTurn hostJobs w.machine).2.state.watchInterval =
      w.machine.state.watchInterval) : w.start.Sound := by
  have hnone : w.start.watchers = w.watchers := by
    show w.watchers ++ _ = w.watchers
    rw [hroll.nextNumber, Nat.sub_self]
    exact List.append_nil _
  rcases hs.same hroll hw hi with ⟨hroll', hgiven, hapart, hinterval, hphase⟩
  refine ⟨hroll', hnone ▸ hgiven, hnone ▸ hapart, hinterval, ?_⟩
  cases hphase with
  | off _ hrun hmissed hoff => exact .off trivial hrun hmissed (hnone ▸ hoff)
  | on _ hrun htask hby => exact .on rfl hrun htask (hnone ▸ hby)
  | ending hcaller => exact absurd hfree (WatchCaller.not_isFree hcaller)

/-- The watch is started. -/
theorem Sound.start (hs : w.Sound) (hfree : w.caller.IsFree) : w.start.Sound := by
  have hturn := startWatch_runTurn w.machine
  by_cases hzero : w.machine.state.settings.policy.hotReloadIntervalMs = 0
  · rw [if_pos hzero] at hturn
    exact hs.start_same hfree (hturn ▸ .of_outcomes rfl)
      (congrArg (·.state.watch) hturn) (congrArg (·.state.watchInterval) hturn)
  rw [if_neg hzero] at hturn
  by_cases hrun : w.machine.state.watch.running = true
  · rw [if_pos hrun] at hturn
    exact hs.start_same hfree (by rw [hturn]; exact .of_outcomes rfl)
      (congrArg (·.state.watch) hturn) (congrArg (·.state.watchInterval) hturn)
  rw [if_neg hrun] at hturn
  have hstart : w.start = { w with
      machine := w.machine.setOffWatch
      caller := .started
      watchers := w.watchers ++ [w.machine.nextNumber] } := by
    simp [WatchedHost.start, hturn, HostMachine.setOffWatch, Machine.spawn]
  rw [hstart]
  cases hs.phase with
  | off _ _ hmissed hnone =>
    refine ⟨hs.roll.setOffWatch, fun n hn => ?_, hs.apart.setOffWatch, fun _ => hzero,
      .on rfl rfl rfl (HostMachine.watchedBy_setOffWatch hnone hmissed)⟩
    rcases List.mem_append.mp hn with hn | hn
    · exact Nat.lt_succ_of_lt (hs.given n hn)
    · exact Nat.lt_succ_of_le (Nat.le_of_eq (List.mem_singleton.mp hn))
  | on _ h => exact absurd h hrun
  | ending hcaller => exact absurd hfree (WatchCaller.not_isFree hcaller)

/-- A stop that waits has a turn. -/
theorem Sound.awaits (hs : w.Sound) (hrun : w.isRunning = false)
    (hby : w.machine.WatchedBy w.watchers w.missed n) : (w.stopTurn (awaitWatch n)).Sound := by
  rcases awaitWatch_runTurn n w.machine with ⟨notices, hturn⟩
  unfold stopTurn
  rw [hturn]
  split
  next hended =>
    have hroll : w.machine.SameRoll { w.machine with state := w.machine.state.notice notices } :=
      .of_outcomes rfl
    rcases hs.same hroll rfl rfl with ⟨hroll', hgiven, hapart, hinterval, -⟩
    -- The one that watched has ended, and is not there any more.
    have hgone : ¬ w.machine.HasTask n := ((hs.roll.ended n).mp hended).2
    refine ⟨hroll', hgiven, hapart, hinterval, .off trivial hrun ?_ fun a ha hn => ?_⟩
    · rcases hby.state with ⟨a, ha, han, -⟩ | ⟨r, -, hr⟩
      · exact absurd ⟨a, ha, han⟩ hgone
      · exact hr.stopped hrun
    · exact hgone ⟨a, ha, hby.only a ha hn⟩
  next => exact ⟨hs.roll, hs.given, hs.apart, hs.interval, .ending rfl hrun hby⟩

/-- As long as a task that is meant to watch waits for a tick, no stop has been missed. -/
theorem Sound.not_missed (hs : w.Sound) (hrun : w.isRunning = true)
    (hby : w.machine.WatchedBy w.watchers w.missed n) (ha : a ∈ w.machine.tasks)
    (hn : a.number = n) (hawaits : a.program.AwaitsTick) : ¬ w.missed := by
  rcases hby.state with ⟨b, hb, hbn, hwatches⟩ | ⟨r, hr, -⟩
  · obtain rfl := hs.roll.keeps.eq_of_number ha hb (hn.trans hbn.symm)
    cases hwatches with
    | begins hp => exact absurd (hp ▸ hawaits) not_awaitsTick_watchJob
    | awaits _ _ hmissed => exact hmissed
    | passes _ htold hmissed =>
      rw [show w.machine.state.watch.running = true from hrun] at htold
      rw [← hmissed, htold]
      exact Bool.false_ne_true
  · exact absurd ⟨a, ha, hn⟩ (hs.roll.not_hasTask hr)

/-- The task of the watch is told to end. Where it waits for a tick it may still hear that, and
elsewhere the stop is missed. -/
theorem Sound.told (hs : w.Sound) (hrun : w.isRunning = true)
    (hby : w.machine.WatchedBy w.watchers w.missed n) :
    w.machine.toldToEnd.WatchedBy w.watchers (w.missed ∨ w.MissesStop) n := by
  refine ⟨hby.mem, hby.only, ?_⟩
  by_cases hawaits : ∃ a ∈ w.watching, a.program.AwaitsTick
  · -- The one that waits for a tick is the one that is there.
    rcases hawaits with ⟨a, hwatching, hawaits⟩
    rcases List.mem_filter.mp hwatching with ⟨ha, hn⟩
    have han : a.number = n := hby.only a ha (List.contains_iff_mem.mp hn)
    refine .inl ⟨a, ha, han, .awaits hawaits rfl ?_⟩
    rintro (hmissed | ⟨-, hnone⟩)
    · exact hs.not_missed hrun hby ha han hawaits hmissed
    · exact hnone ⟨a, hwatching, hawaits⟩
  · have hmissed : w.machine.toldToEnd.state.watch.told = true ↔ (w.missed ∨ w.MissesStop) :=
      iff_of_true rfl (.inr ⟨hrun, hawaits⟩)
    rcases hby.state with ⟨a, ha, han, hwatches⟩ | ⟨r, hr, -⟩
    · refine .inl ⟨a, ha, han, ?_⟩
      cases hwatches with
      | begins hp => exact .begins hp hmissed
      | awaits hp =>
        have hn : w.watchers.contains a.number = true := List.contains_iff_mem.mpr (han ▸ hby.mem)
        exact absurd ⟨a, List.mem_filter.mpr ⟨ha, hn⟩, hp⟩ hawaits
      | passes hp => exact .passes (hp.later (Nat.le_refl _)) rfl hmissed
    · exact .inr ⟨r, hr, nofun, fun _ => hmissed⟩

/-- The watch is stopped. -/
theorem Sound.stop (hs : w.Sound) (hfree : w.caller.IsFree) : w.stop.Sound := by
  have hturn := stopWatch_runTurn w.machine
  cases hs.phase with
  | off _ hrun hmissed hnone =>
    have hnot : ¬ w.machine.state.watch.running = true := Bool.eq_false_iff.mp hrun
    rw [if_neg hnot] at hturn
    have hstop : w.stop = { w with caller := .stopped, missed := w.missed ∨ w.MissesStop } := by
      unfold WatchedHost.stop stopTurn
      rw [hturn]
      rfl
    have hsame : w.missed ∨ w.MissesStop ↔ w.missed :=
      or_iff_left fun hmisses => hnot hmisses.1
    rw [hstop]
    exact ⟨hs.roll, hs.given, hs.apart, hs.interval,
      .off trivial hrun (hmissed.trans hsame.symm) hnone⟩
  | @on n _ hrun htask hby =>
    rw [if_pos (show w.machine.state.watch.running = true from hrun), htask] at hturn
    let told : WatchedHost := { w with
      machine := w.machine.toldToEnd
      caller := .stopping (awaitWatch n)
      missed := w.missed ∨ w.MissesStop }
    have hstop : w.stop = told.stopTurn (awaitWatch n) := by
      unfold WatchedHost.stop stopTurn
      rw [hturn]
    have hroll := w.machine.sameRoll_toldToEnd
    have hby' := hs.told hrun hby
    have htold : told.Sound :=
      ⟨hs.roll.sameRoll hroll, hs.given, hs.apart.same hroll, nofun, .ending rfl rfl hby'⟩
    rw [hstop]
    exact htold.awaits rfl hby'
  | ending hcaller => exact absurd hfree (WatchCaller.not_isFree hcaller)

/-- Every step keeps a host with its watch sound. -/
theorem Sound.step (hs : w.Sound) (hstep : w.Step w') : w'.Sound := by
  cases hstep with
  | starts hfree => exact hs.start hfree
  | stops hfree => exact hs.stop hfree
  | goesOn hcaller =>
    cases hs.phase with
    | off hfree => exact absurd hfree (WatchCaller.not_isFree hcaller)
    | on hon =>
      rw [hon] at hcaller
      cases hcaller
    | ending hends hrun hby =>
      rw [hends] at hcaller
      cases hcaller
      exact hs.awaits hrun hby
  | setOff hjob => exact hs.setOff hjob
  | turn ha hover => exact hs.turn ha hover
  | passes hle => exact hs.same ⟨hle, rfl, rfl, rfl⟩ rfl rfl
  | alters hspares =>
    exact hs.same (.of_outcomes hspares.outcomes) hspares.watch hspares.interval

theorem Reached.sound (hr : w.Reached) : w.Sound := by
  induction hr with
  | fresh hw ho => exact .fresh hw ho
  | step _ hstep ih => exact ih.step hstep

/-- Where one number watches, at most one task does. -/
theorem Sound.length_watching_le (hs : w.Sound)
    (hby : w.machine.WatchedBy w.watchers w.missed n) : w.watching.length ≤ 1 := by
  have hnodup : (w.watching.map (·.number)).Nodup :=
    hs.roll.keeps.distinct.sublist (List.filter_sublist.map _)
  have hsub : w.watching.map (·.number) ⊆ [n] := by
    intro k hk
    rcases List.mem_map.mp hk with ⟨a, ha, rfl⟩
    rcases List.mem_filter.mp ha with ⟨ha, hn⟩
    exact List.mem_singleton.mpr (hby.only a ha (List.contains_iff_mem.mp hn))
  simpa using (hnodup.subperm hsub).length_le

/-- At most one task watches. Once a stop is over none does, and what it was told is left then
just if some stop was missed: it came while no task waited for a tick, or to one that did, but
the tick was due before that had heard it, and won. While the watch is meant to run, one task
does just if it has not broken down and, where a stop was missed, what is left has not been
heard yet. -/
theorem Reached.watching_as_meant (hr : w.Reached) :
    w.watching.length ≤ 1 ∧
      (w.caller = .stopped → w.watching = [] ∧ w.isRunning = false ∧
        (w.machine.state.watch.told = true ↔ w.missed)) ∧
      (w.isRunning = true → (w.watching ≠ [] ↔
        (w.missed → w.machine.state.watch.told = true) ∧ ¬ w.BrokeDown)) := by
  have hs := hr.sound
  have hmem {a} : a ∈ w.watching ↔ a ∈ w.machine.tasks ∧ a.number ∈ w.watchers := by
    rw [watching, List.mem_filter, List.contains_iff_mem]
  cases hs.phase with
  | off _ hrun hmissed hnone =>
    have hoff : w.watching = [] :=
      List.eq_nil_iff_forall_not_mem.mpr fun a ha => hnone a (hmem.mp ha).1 (hmem.mp ha).2
    rw [hoff, hrun]
    exact ⟨Nat.zero_le 1, fun _ => ⟨rfl, rfl, hmissed⟩, nofun⟩
  | @on n hcaller hrun htask hby =>
    refine ⟨hs.length_watching_le hby, ?_, fun _ => ?_⟩
    · rw [hcaller]
      nofun
    rcases hby.state with ⟨a, ha, han, hwatches⟩ | ⟨r, hr, hended⟩
    · refine iff_of_true (List.ne_nil_of_mem (hmem.mpr ⟨ha, han ▸ hby.mem⟩)) ⟨?_, ?_⟩
      · exact hwatches.told_of_missed
      · rintro ⟨k, message, hk, hout⟩
        obtain rfl := Option.some.inj (htask.symm.trans hk)
        exact hs.roll.not_hasTask hout ⟨a, ha, han⟩
    · have hgone : w.watching = [] := by
        refine List.eq_nil_iff_forall_not_mem.mpr fun a ha => hs.roll.not_hasTask hr ⟨a, ?_⟩
        exact ⟨(hmem.mp ha).1, hby.only a (hmem.mp ha).1 (hmem.mp ha).2⟩
      rcases hended.running hrun with ⟨htold, hok⟩
      refine iff_of_false (fun hne => hne hgone) ?_
      rintro ⟨hmissed, hnot⟩
      -- It has ended by itself, which is because of a stop that was missed, or broken down.
      cases r with
      | ok value =>
        rw [hmissed (hok.mp rfl)] at htold
        cases htold
      | error message => exact hnot ⟨n, message, htask, hr⟩
  | ending hcaller hrun hby =>
    refine ⟨hs.length_watching_le hby, ?_, ?_⟩
    · rw [hcaller]
      nofun
    · rw [hrun]
      nofun

/-! ## Small runs -/

/-- A host whose watch has not been started. -/
private def unwatched (h : Host) : WatchedHost :=
  ⟨Machine.start h, .stopped, [], False⟩

/-- The first task has a turn, if its wait is over. -/
private def turned (w : WatchedHost) : WatchedHost :=
  match w.machine.tasks with
  | [] => w
  | a :: _ =>
    if w.machine.isOver a.ready a.deadline then w.turn a else w

/-- Some milliseconds later. -/
private def later (w : WatchedHost) (ms : Nat) : WatchedHost :=
  { w with machine := { w.machine with time := w.machine.time + ms } }

/-- A stop that waits has a turn. -/
private def awaited (w : WatchedHost) : WatchedHost :=
  match w.caller with
  | .stopping rest => w.stopTurn rest
  | .started | .stopped => w

private theorem Reached.turned (hr : w.Reached) : w.turned.Reached := by
  unfold WatchedHost.turned
  split
  · exact hr
  next a rest htasks =>
    split
    next hover => exact hr.step (.turn (htasks ▸ List.mem_cons_self) hover)
    next => exact hr

private theorem Reached.later (hr : w.Reached) (ms : Nat) : (w.later ms).Reached :=
  hr.step (.passes (Nat.le_add_right _ ms))

private theorem Reached.awaited (hr : w.Reached) : w.awaited.Reached := by
  unfold WatchedHost.awaited
  split
  next rest hcaller => exact hr.step (.goesOn hcaller)
  next => exact hr
  next => exact hr

/-- Where no tick wins over a stop, a turn misses none. -/
private theorem not_missed_turned (hties : w.machine.state.ties 0 = true) (hmissed : ¬ w.missed) :
    ¬ w.turned.missed := by
  unfold WatchedHost.turned
  split
  · exact hmissed
  split
  · rintro (h | ⟨-, -, hlost, -⟩)
    · exact hmissed h
    · cases hties.symm.trans hlost
  · exact hmissed

private theorem awaited_missed (w : WatchedHost) : w.awaited.missed = w.missed := by
  unfold WatchedHost.awaited
  split <;> rfl

/-- A host on which there is nothing to compare. -/
private def bareHost : WatchedHost :=
  unwatched (Host.new Settings.default (.empty "w") fun _ => none)

/-- A watch that was stopped while it waited for its first tick, and started again. -/
private def startedAgain : WatchedHost :=
  bareHost.start.turned.stop.turned.awaited.start.turned

private theorem startedAgain_reached : startedAgain.Reached := by
  have hwaits : bareHost.start.turned.Reached :=
    ((Reached.fresh rfl rfl).step (.starts trivial)).turned
  have hstopped : bareHost.start.turned.stop.turned.awaited.Reached :=
    ((hwaits.step (.stops (by decide +kernel))).turned).awaited
  exact (hstopped.step (.starts (by decide +kernel))).turned

/-- A stop that the task hears leaves nothing behind, and the next task watches. -/
theorem watching_of_started_again :
    startedAgain.isRunning = true ∧ startedAgain.watching ≠ [] := by
  have hrun : startedAgain.isRunning = true := by decide +kernel
  have hawaits : ∃ a ∈ bareHost.start.turned.watching, a.program.AwaitsTick :=
    ⟨_, .head _, 5000, .inl rfl⟩
  have hheard : ¬ bareHost.start.turned.stop.missed := by
    rintro (hmissed | ⟨-, hnone⟩)
    · exact not_missed_turned (by decide +kernel) id hmissed
    · exact hnone hawaits
  have hmissed : ¬ startedAgain.missed := by
    refine not_missed_turned (by decide +kernel) ?_
    rw [show ∀ w : WatchedHost, w.start.missed = w.missed from fun _ => rfl, awaited_missed]
    exact not_missed_turned (by decide +kernel) hheard
  have hbroke : ¬ startedAgain.BrokeDown := by
    have hnone : startedAgain.machine.state.watch.task = some 1 ∧
        (startedAgain.machine.state.outcome? 1).isNone = true := by
      decide +kernel
    rintro ⟨number, message, hnumber, hout⟩
    cases hnone.1.symm.trans hnumber
    rw [hout] at hnone
    exact Bool.false_ne_true hnone.2
  exact ⟨hrun, ((Reached.watching_as_meant startedAgain_reached).2.2 hrun).mpr
    ⟨fun hmiss => absurd hmiss hmissed, hbroke⟩⟩

/-- A host with a folder of an extension that is slow to start. -/
private def slowHost : WatchedHost :=
  unwatched <| (Host.serving LifecyclePolicy.default (.uniform "e"
    { Conduct.idle with respond := fun _ _ => ⟨100, .succeeded⟩ } .zero) ["a"]).describing "a"
      "id: a\nversion: 2.0.0\nentry_point: e\n"

/-- A watch that was stopped during its first pass, while the extension was starting, and
started again. -/
private def stoppedInPass : WatchedHost :=
  ((slowHost.start.turned.later 5000).turned.stop.later 100).turned.awaited.start.turned

/-- A watch that was stopped before the first turn of its task, and started again. -/
private def stoppedAtOnce : WatchedHost :=
  bareHost.start.stop.turned.awaited.start.turned

/-- The host on which there is nothing to compare, where every tick that is due wins. -/
private def tickingHost : WatchedHost :=
  unwatched
    { Host.new Settings.default (.empty "w") fun _ => none with ties := fun _ => false }

/-- A watch that was stopped when its first tick was due, which has won, and started again. -/
private def stoppedAtTick : WatchedHost :=
  (tickingHost.start.turned.later 5000).stop.turned.awaited.start.turned

/-- A stop during a pass, before the task has begun to wait, or when a tick is due that wins,
ends the next task: the watch is meant to run, and nothing watches. -/
theorem not_watching_after_missed_stop :
    (stoppedInPass.Reached ∧ stoppedInPass.isRunning = true ∧ stoppedInPass.watching = []) ∧
      (stoppedAtOnce.Reached ∧ stoppedAtOnce.isRunning = true ∧ stoppedAtOnce.watching = []) ∧
      stoppedAtTick.Reached ∧ stoppedAtTick.isRunning = true ∧ stoppedAtTick.watching = [] := by
  have hpass : ((slowHost.start.turned.later 5000).turned).Reached :=
    ((((Reached.fresh rfl rfl).step (.starts trivial)).turned).later 5000).turned
  have hstopped : ((slowHost.start.turned.later 5000).turned.stop.later
      100).turned.awaited.Reached :=
    (((hpass.step (.stops (by decide +kernel))).later 100).turned).awaited
  have honce : bareHost.start.stop.turned.awaited.Reached :=
    ((((Reached.fresh rfl rfl).step (.starts trivial)).step (.stops trivial)).turned).awaited
  have hlost : (tickingHost.start.turned.later 5000).stop.turned.awaited.Reached :=
    (((((Reached.fresh rfl rfl).step (.starts trivial)).turned).later 5000).step
      (.stops (by decide +kernel))).turned.awaited
  have hdead : stoppedInPass.isRunning = true ∧ stoppedInPass.watching.length = 0 := by
    decide +kernel
  have hdead' : stoppedAtOnce.isRunning = true ∧ stoppedAtOnce.watching.length = 0 := by
    decide +kernel
  have hdead'' : stoppedAtTick.isRunning = true ∧ stoppedAtTick.watching.length = 0 := by
    decide +kernel
  refine ⟨⟨?_, hdead.1, List.length_eq_zero_iff.mp hdead.2⟩,
    ⟨?_, hdead'.1, List.length_eq_zero_iff.mp hdead'.2⟩,
    ?_, hdead''.1, List.length_eq_zero_iff.mp hdead''.2⟩
  · exact (hstopped.step (.starts (by decide +kernel))).turned
  · exact (honce.step (.starts (by decide +kernel))).turned
  · exact (hlost.step (.starts (by decide +kernel))).turned

end WatchedHost

end ExtensionHost
