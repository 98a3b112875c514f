import ExtensionHost.Proofs.CallerTurns
import ExtensionHost.Proofs.Scan

/-!
# Requests

A change that is requested for some ids is made for each of them once, one after another,
in tasks of their own. The result is kept under the ids that the descriptions report: these
are the requested ids only where no requested id leads to a folder that is named otherwise.
-/

namespace ExtensionHost

open Program

variable {α : Type} {h : Host} {m : HostMachine} {T : Nat} {ids : List String}

/-! ## First occurrences -/

/-- The elements of a list without repetitions, in the order in which they first occur. -/
structure FirstsOf [DecidableEq α] (firsts as : List α) : Prop where
  nodup : firsts.Nodup
  mem : ∀ a, a ∈ firsts ↔ a ∈ as
  order : firsts.Pairwise fun a b => as.idxOf a < as.idxOf b

theorem keepFirst_firsts [DecidableEq α] (as : List α) : FirstsOf (keepFirst as) as := by
  induction as with
  | nil => exact ⟨.nil, fun _ => .rfl, .nil⟩
  | cons a as ih =>
    have hother {b : α} (hb : b ∈ (keepFirst as).filter fun b => decide (b ≠ a)) : b ≠ a := by
      simpa using (List.mem_filter.mp hb).2
    have hlater {b : α} (hb : b ≠ a) : (a :: as).idxOf b = as.idxOf b + 1 := by
      rw [List.idxOf_cons_ne as hb.symm]
    unfold keepFirst
    refine ⟨List.nodup_cons.mpr ⟨fun ha => hother ha rfl, ih.nodup.filter _⟩, fun b => ?_, ?_⟩
    · by_cases hb : b = a <;> simp [hb, ih.mem b]
    · refine List.pairwise_cons.mpr ⟨fun b hb => ?_, ?_⟩
      · rw [List.idxOf_cons_self, hlater (hother hb)]
        exact Nat.succ_pos _
      · refine (ih.order.filter _).imp_of_mem fun {b c} hb hc hlt => ?_
        rw [hlater (hother hb), hlater (hother hc)]
        exact Nat.succ_lt_succ hlt

/-! ## Results -/

/-- No id of a result is in both groups, and there is a reason for each that has failed and
for no other. -/
structure BatchResult.IsSplit (r : BatchResult) : Prop where
  apart : ∀ id ∈ r.succeeded, id ∉ r.failed
  reasons : r.reasons.map (·.1) = r.failed

theorem map_fst_insertEntry {key : String} {value : α} {table : List (String × α)} :
    (insertEntry key value table).map (·.1) = insertText key (table.map (·.1)) := by
  induction table with
  | nil => rfl
  | cons entry rest ih =>
    simp only [insertEntry, List.map_cons, insertText]
    split
    · rfl
    split
    next heq => simp [heq]
    next => simp [ih]

theorem map_fst_eraseEntry {key : String} {table : List (String × α)} :
    (eraseEntry key table).map (·.1) = eraseText key (table.map (·.1)) := by
  unfold eraseEntry eraseText
  rw [List.filter_map]
  rfl

theorem BatchResult.IsSplit.record {ε : Type} {r : BatchResult} (hr : r.IsSplit) (id : String)
    (wording : ε → String) (outcome : Except ε Unit) : (r.record id wording outcome).IsSplit := by
  cases outcome with
  | ok _ =>
    refine ⟨fun other hsucceeded hfailed => ?_, ?_⟩
    · obtain ⟨hfailed, hne⟩ := mem_eraseText.mp hfailed
      obtain heq | hsucceeded := mem_insertText.mp hsucceeded
      · exact hne heq
      · exact hr.apart other hsucceeded hfailed
    · exact map_fst_eraseEntry.trans (congrArg (eraseText id) hr.reasons)
  | error e =>
    refine ⟨fun other hsucceeded hfailed => ?_, ?_⟩
    · obtain ⟨hsucceeded, hne⟩ := mem_eraseText.mp hsucceeded
      obtain heq | hfailed := mem_insertText.mp hfailed
      · exact hne heq
      · exact hr.apart other hsucceeded hfailed
    · exact map_fst_insertEntry.trans (congrArg (insertText id) hr.reasons)

/-- The ids that a result is about. -/
def BatchResult.IsAbout (r : BatchResult) (id : String) : Prop :=
  id ∈ r.succeeded ∨ id ∈ r.failed

theorem BatchResult.isAbout_record {ε : Type} {r : BatchResult} {id other : String}
    {wording : ε → String} {outcome : Except ε Unit} :
    (r.record id wording outcome).IsAbout other ↔ other = id ∨ r.IsAbout other := by
  unfold IsAbout
  cases outcome with
  | ok _ =>
    simp only [record, recordSuccess, mem_insertText, mem_eraseText]
    by_cases heq : other = id <;> simp [heq]
  | error e =>
    simp only [record, recordFailure, mem_insertText, mem_eraseText]
    by_cases heq : other = id <;> simp [heq]

/-- The result once outcomes of some ids have been recorded, one after another. -/
inductive Recorded : List String → BatchResult → Prop where
  | nil : Recorded [] .empty
  | snoc {ids : List String} {r : BatchResult} (id : String) (outcome : Except HostError Unit) :
      Recorded ids r → Recorded (ids ++ [id]) (r.record id HostError.message outcome)

theorem Recorded.isSplit {r : BatchResult} (hr : Recorded ids r) : r.IsSplit := by
  induction hr with
  | nil => exact ⟨fun _ hmem => absurd hmem List.not_mem_nil, rfl⟩
  | snoc id outcome _ ih => exact ih.record id HostError.message outcome

theorem Recorded.isAbout {r : BatchResult} (hr : Recorded ids r) (id : String) :
    r.IsAbout id ↔ id ∈ ids := by
  induction hr with
  | nil => simp [BatchResult.IsAbout, BatchResult.empty]
  | snoc other outcome _ ih =>
    rw [BatchResult.isAbout_record, ih]
    simp [or_comm]

/-! ## Descriptions -/

/-- A description of an id reports this id, or the name of the folder that the id leads to. -/
theorem Host.describe_id (h : Host) (id : String) :
    (h.describe id).id = id ∨ isName (h.describe id).id = true := by
  unfold describe
  cases hread : h.settings.layout.descriptorOf h.files id with
  | error failure => exact .inl rfl
  | ok d =>
    obtain ⟨root, hfolder⟩ := FolderLayout.descriptorOf_ok hread
    obtain ⟨hblank, hname⟩ := FolderLayout.readFolder_ok hfolder
    cases hfile : (root.joinName id).fileName? with
    | none =>
      rw [hfile] at hname
      rw [← hname] at hblank
      cases hblank
    | some name =>
      rw [hfile] at hname
      exact .inr (hname ▸ Path.isName_of_fileName? hfile)

/-- A name leads to a folder of that name. -/
theorem Host.describe_id_of_isName {id : String} (hid : isName id = true) :
    (h.describe id).id = id := by
  unfold describe
  cases hread : h.settings.layout.descriptorOf h.files id with
  | error failure => rfl
  | ok d =>
    obtain ⟨root, hfolder⟩ := FolderLayout.descriptorOf_ok hread
    obtain ⟨-, hname⟩ := FolderLayout.readFolder_ok hfolder
    rw [Path.fileName?_joinName hid] at hname
    exact hname.symm

/-- The ids that the descriptions report are the ids that were asked for exactly where every
description reports the id it was asked for. -/
theorem Host.describes_ids_iff (h : Host) (ids : List String) :
    (∀ id, id ∈ ids.map (fun id => (h.describe id).id) ↔ id ∈ ids) ↔
      ∀ id ∈ ids, (h.describe id).id = id := by
  constructor
  · intro hsame id hid
    by_contra hne
    obtain ⟨other, hother, heq⟩ := List.mem_map.mp ((hsame id).mpr hid)
    -- What some description reports is asked for itself, or is a name.
    obtain hself | hname := h.describe_id other
    · obtain rfl : other = id := hself.symm.trans heq
      exact hne hself
    · exact hne (describe_id_of_isName (heq ▸ hname))
  · intro hall id
    rw [List.map_congr_left hall, List.map_id']

/-! ## Handling events one after another -/

/-- What is left of a request once the task of an event has been set off and waited for. -/
def operateRest (T : Nat) (e : Event) (rest : List Event) (r : BatchResult) (number : Nat) :
    HostProgram BatchResult :=
  (ask (·.outcome? number)).bind fun outcome =>
    (noteFailure (.operationFailed e.id e.change) (outcomeInTime e T outcome)).bind fun _ =>
      operateEach T rest (r.record e.id HostError.message (outcomeInTime e T outcome))

/-- The task of the first event is set off, and waited for until its deadline. -/
theorem operateEach_cons_turn (T : Nat) (e : Event) (rest : List Event) (r : BatchResult)
    (before : List Job) (m : HostMachine) :
    Caller.turn hostJobs before (operateEach T (e :: rest) r) m =
      .turn hostJobs (before ++ [.handle e])
        (wait (·.hasEnded m.nextNumber) (some (m.time + T)) (operateRest T e rest r m.nextNumber))
        (m.spawn hostJobs false (.handle e)) := by
  unfold Caller.turn
  rw [List.append_assoc]
  rfl

/-- What came of the task is recorded, and the next event has its turn. -/
theorem operateRest_turn (T : Nat) (e : Event) (rest : List Event) (r : BatchResult) (number : Nat)
    (before : List Job) (m : HostMachine) :
    ∃ outcome m', Caller.turn hostJobs before (operateRest T e rest r number) m =
      .turn hostJobs before (operateEach T rest (r.record e.id HostError.message outcome)) m' := by
  refine ⟨outcomeInTime e T (m.state.outcome? number), ?_⟩
  unfold operateRest
  cases houtcome : outcomeInTime e T (m.state.outcome? number) with
  | ok _ =>
    refine ⟨m, ?_⟩
    simp only [Caller.turn, ask, Program.bind, setsOff, runTurn, houtcome, noteFailure]
  | error failure =>
    refine ⟨{ m with state := m.state.notice [.operationFailed e.id e.change failure] }, ?_⟩
    simp only [Caller.turn, ask, Program.bind, setsOff, runTurn, houtcome, noteFailure, note,
      noteAll, change]

/-- Where a caller stands that handles events one after another: those before the one that it
waits for are recorded, and no event behind it has been set off. -/
inductive Operating (T : Nat) (events : List Event) :
    Caller Host Job (Except HostError Unit) BatchResult → Prop where
  | waits {before rest : List Event} {e : Event} {r : BatchResult} {ready : Host → Bool}
      {deadline number : Nat} {m : HostMachine} : events = before ++ e :: rest →
      Recorded (before.map Event.id) r →
      Operating T events ⟨(before ++ [e]).map .handle,
        .waits ready (some deadline) (operateRest T e rest r number), m⟩
  | done {r : BatchResult} {m : HostMachine} : Recorded (events.map Event.id) r →
      Operating T events ⟨events.map .handle, .done r, m⟩

theorem operateEach_operating {events before rest : List Event} {r : BatchResult}
    (hevents : events = before ++ rest) (hr : Recorded (before.map Event.id) r) (m : HostMachine) :
    Operating T events (.turn hostJobs (before.map .handle) (operateEach T rest r) m) := by
  induction rest generalizing before r m with
  | nil =>
    obtain rfl : events = before := by simpa using hevents
    unfold Caller.turn
    simp only [operateEach, setsOff, runTurn, List.append_nil]
    exact .done hr
  | cons e rest ih =>
    rw [operateEach_cons_turn]
    have hbefore : before.map Job.handle ++ [.handle e] = (before ++ [e]).map .handle := by simp
    rw [hbefore]
    generalize hspawned : m.spawn hostJobs false (.handle e) = spawned
    cases hover : spawned.isOver (·.hasEnded m.nextNumber) (some (m.time + T)) with
    | true =>
      -- There is no time to wait: the event has missed its deadline already.
      obtain ⟨outcome, m', hturn⟩ := operateRest_turn T e rest r m.nextNumber
        ((before ++ [e]).map .handle) spawned
      have hwait : Caller.turn hostJobs ((before ++ [e]).map .handle)
          (wait (·.hasEnded m.nextNumber) (some (m.time + T))
            (operateRest T e rest r m.nextNumber)) spawned =
          .turn hostJobs ((before ++ [e]).map .handle) (operateRest T e rest r m.nextNumber)
            spawned := by
        simp only [Caller.turn, setsOff, runTurn, hover, if_true]
      rw [hwait, hturn]
      refine ih (by simpa using hevents) ?_ m'
      rw [List.map_append]
      exact hr.snoc e.id outcome
    | false =>
      unfold Caller.turn
      simp only [setsOff, runTurn, hover, Bool.false_eq_true, if_false, List.append_nil]
      exact .waits hevents hr

/-- Each step of the caller goes on with the next event at most. -/
theorem Operating.step {events : List Event}
    {meanwhile : (Host → Bool) → Option Nat → HostMachine → HostMachine → Prop}
    {c c' : Caller Host Job (Except HostError Unit) BatchResult} (hc : Operating T events c)
    (hstep : Caller.Step hostJobs meanwhile c c') : Operating T events c' := by
  cases hstep with
  | between =>
    cases hc with
    | waits hevents hr => exact .waits hevents hr
  | @wakes l ready deadline next m hover =>
    generalize hstop : Caller.mk l (.waits ready deadline next) m = waiting at hc
    cases hc with
    | done => cases hstop
    | @waits before rest e r _ _ number _ hevents hr =>
      cases hstop
      obtain ⟨outcome, m', hturn⟩ := operateRest_turn T e rest r number
        ((before ++ [e]).map .handle) m
      rw [hturn]
      refine operateEach_operating (by simpa using hevents) ?_ m'
      rw [List.map_append]
      exact hr.snoc e.id outcome

theorem operate_operating
    {meanwhile : (Host → Bool) → Option Nat → HostMachine → HostMachine → Prop} {change : Change}
    {c : Caller Host Job (Except HostError Unit) BatchResult}
    (hreach : (m.call hostJobs (operate change ids T)).Reaches hostJobs meanwhile c) :
    Operating T (m.state.eventsOf change ids) c := by
  induction hreach with
  | refl =>
    have hnone : Recorded (([] : List Event).map Event.id) .empty := .nil
    exact operateEach_operating rfl hnone m
  | tail _ hstep ih => exact ih.step hstep

/-- A turn of the caller sets off the next event, where there is one. -/
theorem operateEach_turn_getsOn (T : Nat) (rest : List Event) (r : BatchResult)
    (before : List Job) (m : HostMachine) :
    (∃ r', (Caller.turn hostJobs before (operateEach T rest r) m).stop = .done r') ∨
      before.length < (Caller.turn hostJobs before (operateEach T rest r) m).setOff.length := by
  cases rest with
  | nil => exact .inl ⟨r, rfl⟩
  | cons e rest =>
    refine .inr ?_
    rw [operateEach_cons_turn]
    simp [Caller.turn]

/-! ## Requests -/

/-- The jobs of a request: one for each id, in the order in which the ids first occur among
those asked for. -/
def JobsOf (h : Host) (change : Change) (ids : List String) (jobs : List Job) : Prop :=
  ∃ firsts, FirstsOf firsts ids ∧ jobs = firsts.map fun id => .handle (.of change (h.describe id))

theorem eventsOf_jobsOf (h : Host) (change : Change) (ids : List String) :
    JobsOf h change ids ((h.eventsOf change ids).map .handle) :=
  ⟨keepFirst ids, keepFirst_firsts ids, List.map_map⟩

/-- The caller of a request waits for a job, until a deadline at the latest. No job has been
set off twice or before its turn, and the turn after the wait sets off the next one, or is
the last. -/
structure RequestWaits (h : Host) (change : Change) (ids : List String)
    (c : Caller Host Job (Except HostError Unit) BatchResult) : Prop where
  inOrder : ∃ jobs, JobsOf h change ids jobs ∧ c.setOff <+: jobs
  getsOn : ∃ ready deadline next, c.stop = .waits ready (some deadline) next ∧
    ∀ m : HostMachine, (∃ r, (Caller.turn hostJobs c.setOff next m).stop = .done r) ∨
      c.setOff.length < (Caller.turn hostJobs c.setOff next m).setOff.length

/-- What a request has come to: each job has been set off once, and the result tells of the
ids that the descriptions report. -/
structure Requested (h : Host) (change : Change) (ids : List String) (setOff : List Job)
    (r : BatchResult) : Prop where
  jobs : JobsOf h change ids setOff
  split : r.IsSplit
  about : ∀ id, r.IsAbout id ↔ ∃ asked ∈ ids, (h.describe asked).id = id

/-- Whatever becomes of the tasks of a request, and whatever happens in between, the caller
sets off one job after another and comes to a result. The result tells of the ids that the
descriptions report. These are the ids asked for exactly where every description reports the
id it was asked for, and so wherever the ids are names. -/
theorem operate_requested
    {meanwhile : (Host → Bool) → Option Nat → HostMachine → HostMachine → Prop} {change : Change}
    {c : Caller Host Job (Except HostError Unit) BatchResult}
    (hreach : (m.call hostJobs (operate change ids T)).Reaches hostJobs meanwhile c) :
    RequestWaits m.state change ids c ∨
      ∃ r, c.stop = .done r ∧ Requested m.state change ids c.setOff r ∧
        ((∀ id, r.IsAbout id ↔ id ∈ ids) ↔ ∀ id ∈ ids, (m.state.describe id).id = id) ∧
        ((∀ id ∈ ids, isName id = true) → ∀ id, r.IsAbout id ↔ id ∈ ids) := by
  cases operate_operating hreach with
  | @waits before rest e r ready deadline number m' hevents hr =>
    refine .inl ⟨⟨_, eventsOf_jobsOf m.state change ids, ?_⟩, ready, deadline, _, rfl,
      fun m₁ => ?_⟩
    · rw [hevents]
      exact ⟨rest.map .handle, by simp⟩
    · obtain ⟨outcome, m₂, hturn⟩ := operateRest_turn T e rest r number
        ((before ++ [e]).map .handle) m₁
      rw [hturn]
      exact operateEach_turn_getsOn T rest _ _ m₂
  | @done r m' hr =>
    have habout (id : String) :
        r.IsAbout id ↔ id ∈ ids.map fun id => (m.state.describe id).id := by
      rw [hr.isAbout id]
      simp only [Host.eventsOf, List.map_map, List.mem_map, (keepFirst_firsts ids).mem]
      rfl
    have hiff : (∀ id, r.IsAbout id ↔ id ∈ ids) ↔
        ∀ id ∈ ids, (m.state.describe id).id = id := by
      simp only [habout]
      exact m.state.describes_ids_iff ids
    refine .inr ⟨r, rfl, ⟨eventsOf_jobsOf m.state change ids, hr.isSplit, fun id => ?_⟩, hiff,
      fun hnames => ?_⟩
    · exact (habout id).trans List.mem_map
    · exact hiff.mpr fun id hid => Host.describe_id_of_isName (hnames id hid)

/-- A host with the folder of one extension. -/
private def folderHost : Host :=
  (Host.serving LifecyclePolicy.default (.uniform "e" .idle .zero) ["a"]).describing "a"
    "id: a\nversion: 1.0.0\nentry_point: e\n"

/-- Of two extensions, one of them asked for twice, one is enabled and the other is not
there. -/
theorem operate_requested_of_names :
    ∃ c r, ((Machine.start folderHost).call hostJobs
        (operate .enable ["b", "a", "b"] 50)).Reaches hostJobs
          (Machine.Onward hostJobs Undisturbed) c ∧
      c.stop = .done r ∧ Requested folderHost .enable ["b", "a", "b"] c.setOff r ∧
      (∀ id, r.IsAbout id ↔ id ∈ ["b", "a", "b"]) ∧ r.succeeded = ["a"] ∧ r.failed = ["b"] := by
  have hrun : ((Machine.start folderHost).run hostJobs
      (operate .enable ["b", "a", "b"] 50)).1.value?.map
        (fun r => (r.succeeded, r.failed)) = some (["a"], ["b"]) := by
    decide +kernel
  obtain ⟨result, hvalue, hgroups⟩ := Option.map_eq_some_iff.mp hrun
  obtain ⟨c, hreach, hstop⟩ := run_reaches rfl hvalue
  obtain ⟨-, ready, deadline, next, hwaits, -⟩ | ⟨r, hdone, hrequested, -, hnames⟩ :=
    operate_requested hreach
  · cases hstop.symm.trans hwaits
  · cases hstop.symm.trans hdone
    obtain ⟨hsucceeded, hfailed⟩ := Prod.mk.inj hgroups
    exact ⟨c, result, hreach, hstop, hrequested, hnames (by decide +kernel), hsucceeded, hfailed⟩

/-- An id with a separator at its end leads to the folder all the same, and the result tells
of an extension that was not asked for, and not of the one that was. -/
theorem operate_tells_of_other_id :
    ∃ c, ((Machine.start folderHost).call hostJobs (operate .enable ["a/"] 50)).Reaches hostJobs
        (Machine.Onward hostJobs Undisturbed) c ∧
      ∃ r, c.stop = .done r ∧ r.succeeded = ["a"] ∧ r.failed = [] ∧
        ¬ ∀ id, r.IsAbout id ↔ id ∈ ["a/"] := by
  have hrun : ((Machine.start folderHost).run hostJobs
      (operate .enable ["a/"] 50)).1.value? = some (BatchResult.empty.recordSuccess "a") := by
    decide +kernel
  obtain ⟨c, hreach, hstop⟩ := run_reaches rfl hrun
  refine ⟨c, hreach, _, hstop, rfl, rfl, fun hall => ?_⟩
  have hmem : "a" ∈ ["a/"] := (hall "a").mp (.inl List.mem_cons_self)
  exact absurd hmem (by decide +kernel)

end ExtensionHost
