import Mathlib.Data.List.Induction
import ExtensionHost.Proofs.BreakDown
import ExtensionHost.Proofs.Reached
import ExtensionHost.Proofs.Requests

/-!
# The course of a batch

A result keeps what was recorded last for each id, however often an id is recorded and whatever
was recorded for it before. A batch handles its events one after another, each of them once, and
a failure does not keep it from the next one. So its result tells of each id what the last of its
events has come to. But foreign code that breaks down takes the batch with it, and the events
behind are not handled.
-/

namespace ExtensionHost

open Program

/-! ## What was recorded last -/

section Records

variable {ε : Type} {wording : ε → String} {calls : List (String × Except ε Unit)}
variable {outcome : Except ε Unit} {id other : String} {r : BatchResult}

/-- The result once successes and failures have been recorded one after another, each for an id. -/
def BatchResult.recordAll (wording : ε → String) (r : BatchResult)
    (calls : List (String × Except ε Unit)) : BatchResult :=
  calls.foldl (fun r call => r.record call.1 wording call.2) r

/-- What was recorded last for an id, if anything was. -/
def lastOutcome? (calls : List (String × Except ε Unit)) (id : String) : Option (Except ε Unit) :=
  calls.reverse.lookup id

theorem lastOutcome?_concat : lastOutcome? (calls ++ [(id, outcome)]) other =
    if other = id then some outcome else lastOutcome? calls other := by
  unfold lastOutcome?
  rw [List.reverse_append, List.reverse_singleton, List.singleton_append, List.lookup_cons]
  by_cases heq : other = id
  · simp [heq]
  · rw [beq_false_of_ne heq, if_neg heq]

/-- What the result tells of an id is what was recorded last for it: that nothing was, that it has
succeeded, or that it has failed, and why. -/
def BatchResult.TellsOf (wording : ε → String) (r : BatchResult) (id : String) :
    Option (Except ε Unit) → Prop
  | none => id ∉ r.succeeded ∧ id ∉ r.failed ∧ r.reason? id = none
  | some (.ok _) => id ∈ r.succeeded ∧ id ∉ r.failed ∧ r.reason? id = none
  | some (.error e) => id ∉ r.succeeded ∧ id ∈ r.failed ∧ r.reason? id = some (wording e)

theorem BatchResult.tellsOf_record : (r.record id wording outcome).TellsOf wording id
    (some outcome) := by
  cases outcome with
  | ok _ => simp [TellsOf, record, recordSuccess, reason?, lookup_eraseEntry]
  | error e => simp [TellsOf, record, recordFailure, reason?, lookup_insertEntry]

/-- Recording an outcome changes nothing that is told of the other ids. -/
theorem BatchResult.TellsOf.record {last : Option (Except ε Unit)}
    (hr : r.TellsOf wording other last) (hne : other ≠ id) :
    (r.record id wording outcome).TellsOf wording other last := by
  have hsucceeded : other ∈ (r.record id wording outcome).succeeded ↔ other ∈ r.succeeded := by
    cases outcome <;> simp [BatchResult.record, recordSuccess, recordFailure, hne]
  have hfailed : other ∈ (r.record id wording outcome).failed ↔ other ∈ r.failed := by
    cases outcome <;> simp [BatchResult.record, recordSuccess, recordFailure, hne]
  have hreason : (r.record id wording outcome).reason? other = r.reason? other := by
    cases outcome <;>
      simp [BatchResult.record, recordSuccess, recordFailure, reason?, lookup_eraseEntry,
        lookup_insertEntry, hne]
  -- All that is told is in what has not changed.
  rcases last with _ | _ | e <;> simpa [TellsOf, hsucceeded, hfailed, hreason] using hr

/-- The result tells of each id what was recorded last for it, and of no other ids. No id is in
both groups, those with a reason are those that have failed, and both groups are sets, kept in
ascending order. -/
structure BatchResult.Tells (wording : ε → String) (r : BatchResult)
    (calls : List (String × Except ε Unit)) : Prop where
  split : r.IsSplit
  ascending : r.succeeded.Pairwise (· < ·) ∧ r.failed.Pairwise (· < ·)
  about : ∀ id, r.IsAbout id ↔ id ∈ calls.map (·.1)
  last : ∀ id, r.TellsOf wording id (lastOutcome? calls id)

theorem pairwise_insertText {texts : List String} (h : texts.Pairwise (· < ·)) (s : String) :
    (insertText s texts).Pairwise (· < ·) := by
  -- A set is a table whose entries say nothing.
  have hkeys : (texts.map (·, ())).map (·.1) = texts := by
    rw [List.map_map]
    exact List.map_id texts
  have htable : IsAscending (texts.map (·, ())) :=
    List.pairwise_map.mp (hkeys.symm ▸ h : ((texts.map (·, ())).map (·.1)).Pairwise (· < ·))
  have hinsert := List.pairwise_map.mpr (htable.insertEntry s ())
  rwa [map_fst_insertEntry, hkeys] at hinsert

theorem pairwise_eraseText {texts : List String} (h : texts.Pairwise (· < ·)) (s : String) :
    (eraseText s texts).Pairwise (· < ·) :=
  List.Pairwise.filter _ h

/-- One more outcome is recorded. -/
theorem BatchResult.Tells.record (hr : r.Tells wording calls) (id : String)
    (outcome : Except ε Unit) :
    (r.record id wording outcome).Tells wording (calls ++ [(id, outcome)]) := by
  refine ⟨hr.split.record id wording outcome, ?_, fun other => ?_, fun other => ?_⟩
  · obtain ⟨hsucceeded, hfailed⟩ := hr.ascending
    cases outcome with
    | ok _ => exact ⟨pairwise_insertText hsucceeded id, pairwise_eraseText hfailed id⟩
    | error e => exact ⟨pairwise_eraseText hsucceeded id, pairwise_insertText hfailed id⟩
  · rw [isAbout_record, hr.about]
    simp [or_comm]
  · rw [lastOutcome?_concat]
    split
    next heq => exact heq ▸ tellsOf_record
    next hne => exact (hr.last other).record hne

theorem BatchResult.tells_empty : BatchResult.empty.Tells wording [] := by
  refine ⟨⟨nofun, rfl⟩, ⟨.nil, .nil⟩, fun id => ?_, fun id => ?_⟩
  · simp [IsAbout, empty]
  · simp [TellsOf, lastOutcome?, empty, reason?]

/-- Whatever has been recorded, the result tells what was recorded last. -/
theorem BatchResult.tells_recordAll (wording : ε → String) (calls : List (String × Except ε Unit)) :
    (BatchResult.empty.recordAll wording calls).Tells wording calls := by
  -- The last record counts, so it is taken off first.
  induction calls using List.reverseRecOn with
  | nil => exact tells_empty
  | append_singleton calls call ih =>
    rw [recordAll, List.foldl_append]
    exact ih.record call.1 call.2

end Records

/-! ## One event after another -/

/-- What a batch has left once an event has come to an outcome: to take note of a failure, and the
events behind it. -/
def batchRest (e : Event) (rest : List Event) (r : BatchResult) (outcome : Except HostError Unit) :
    HostProgram BatchResult :=
  (noteFailure (.eventFailed e.id e.change) outcome).bind fun _ =>
    handleEach rest (r.record e.id HostError.message outcome)

theorem handleEach_cons (e : Event) (rest : List Event) (r : BatchResult) :
    handleEach (e :: rest) r = (handle e).bind (batchRest e rest r) :=
  rfl

/-- The events have been handled one after another, each of them once and to its outcome, and note
has been taken of each failure. The steps are those of handling them and of nothing else; what
others do in between is among them. -/
inductive HandledEach (others : Host → Host → Prop) : List Event → Nat → Host → List (Step Host) →
    List (String × Except HostError Unit) → Nat → Host → Prop where
  | nil {t h} : HandledEach others [] t h [] [] t h
  | cons {e rest t h xs outcome t₁ h₁ ys t₂ h₂ zs calls u h'} :
      (handle e).Run others t h xs (.done outcome) t₁ h₁ →
      (noteFailure (.eventFailed e.id e.change) outcome).Run others t₁ h₁ ys (.done ()) t₂ h₂ →
      HandledEach others rest t₂ h₂ zs calls u h' →
      HandledEach others (e :: rest) t h (xs ++ ys ++ zs) ((e.id, outcome) :: calls) u h'

/-- Where a batch stands. Some of its events have been handled, the first ones. Then it is in the
middle of the next one, or about to take note of its failure, or there is no event left, and it
has ended with the result of all outcomes. -/
inductive BatchCourse (others : Host → Host → Prop) (r : BatchResult) (events : List Event)
    (t : Nat) (h : Host) : List (Step Host) → HostProgram BatchResult → Nat → Host → Prop where
  | handling {before e rest xs calls t₁ h₁ ys p u h'} : events = before ++ e :: rest →
      HandledEach others before t h xs calls t₁ h₁ → (handle e).Run others t₁ h₁ ys p u h' →
      (∀ outcome, p ≠ .done outcome) → BatchCourse others r events t h (xs ++ ys)
        (p.bind (batchRest e rest (r.recordAll HostError.message calls))) u h'
  | noting {before e rest xs calls t₁ h₁ ys failure u h'} : events = before ++ e :: rest →
      HandledEach others before t h xs calls t₁ h₁ →
      (handle e).Run others t₁ h₁ ys (.done (.error failure)) u h' →
      BatchCourse others r events t h (xs ++ ys)
        (batchRest e rest (r.recordAll HostError.message calls) (.error failure)) u h'
  | ended {steps calls u h'} : HandledEach others events t h steps calls u h' →
      BatchCourse others r events t h steps (.done (r.recordAll HostError.message calls)) u h'

variable {others : Host → Host → Prop} {e : Event} {events rest : List Event} {r : BatchResult}
variable {t u t₁ : Nat} {h h' h₁ : Host} {steps xs ys : List (Step Host)}
variable {calls : List (String × Except HostError Unit)} {outcome : Except HostError Unit}

/-- There is an outcome for each event, in order, under its id. -/
theorem HandledEach.ids (hh : HandledEach others events t h steps calls u h') :
    calls.map (·.1) = events.map Event.id := by
  induction hh with
  | nil => rfl
  | cons _ _ _ ih => rw [List.map_cons, List.map_cons, ih]

/-- An event in front of the others. -/
theorem BatchCourse.cons {q : HostProgram BatchResult} {zs : List (Step Host)} {t₂ : Nat}
    {h₂ : Host} (hhandle : (handle e).Run others t h xs (.done outcome) t₁ h₁)
    (hnote : (noteFailure (.eventFailed e.id e.change) outcome).Run others t₁ h₁ ys (.done ())
      t₂ h₂)
    (hrest : BatchCourse others (r.record e.id HostError.message outcome) rest t₂ h₂ zs q u h') :
    BatchCourse others r (e :: rest) t h (xs ++ ys ++ zs) q u h' := by
  cases hrest with
  | handling hevents hbefore hrun hp =>
    rw [← List.append_assoc]
    exact .handling (by rw [hevents, List.cons_append]) (.cons hhandle hnote hbefore) hrun hp
  | noting hevents hbefore hrun =>
    rw [← List.append_assoc]
    exact .noting (by rw [hevents, List.cons_append]) (.cons hhandle hnote hbefore) hrun
  | ended hall => exact .ended (.cons hhandle hnote hall)

/-- A failure is noted in one step. -/
theorem noteFailure_run {ε : Type} {notice : ε → Notice} {failed : Except ε Unit}
    {p : HostProgram Unit} (hrun : (noteFailure notice failed).Run others t h steps p u h')
    (hp : p ≠ .done ()) :
    (∃ e, failed = .error e) ∧ steps = [] ∧ p = noteFailure notice failed ∧ u = t ∧ h' = h := by
  cases failed with
  | ok _ => exact absurd hrun.of_done.2.1 hp
  | error e =>
    obtain hrest | ⟨rest, -, hdone⟩ := Run.of_act hrun
    · exact ⟨⟨e, rfl⟩, hrest⟩
    · exact absurd hdone.of_done.2.1 hp

/-- Wherever a run of a batch breaks off, the batch stands somewhere in its course. -/
theorem handleEach_course {q : HostProgram BatchResult}
    (hrun : (handleEach events r).Run others t h steps q u h') :
    BatchCourse others r events t h steps q u h' := by
  -- The result so far and the time go with the events that are left.
  induction events generalizing r t h steps with
  | nil =>
    obtain ⟨rfl, rfl, rfl, rfl⟩ := hrun.of_done
    exact .ended .nil
  | cons e rest ih =>
    rw [handleEach_cons] at hrun
    obtain ⟨p, rfl, hp, hfirst⟩ | ⟨outcome, xs, ys, t₁, h₁, rfl, hhandle, hrest⟩ := hrun.of_bind
    · exact .handling rfl .nil hfirst hp
    · obtain ⟨p, rfl, hp, hnote⟩ | ⟨_, ys, zs, t₂, h₂, rfl, hnote, hlast⟩ := hrest.of_bind
      · -- The failure is known, but no note has been taken of it.
        obtain ⟨⟨failure, rfl⟩, rfl, rfl, rfl, rfl⟩ := noteFailure_run hnote (hp ())
        rw [List.append_nil]
        exact .noting rfl .nil hhandle
      · rw [← List.append_assoc]
        exact (ih hlast).cons hhandle hnote

/-- A batch has ended only when all of its events have been handled. -/
theorem BatchCourse.of_done {result : BatchResult}
    (hc : BatchCourse others r events t h steps (.done result) u h') :
    ∃ calls, HandledEach others events t h steps calls u h' ∧
      result = r.recordAll HostError.message calls := by
  generalize hq : (Program.done result : HostProgram BatchResult) = q at hc
  cases hc with
  | handling _ _ _ hp => exact absurd hq.symm (bind_ne_done hp result)
  | noting => cases hq
  | ended hall =>
    cases hq
    exact ⟨_, hall, rfl⟩

/-- A batch breaks down only in the middle of an event, and when handling that event does. -/
theorem BatchCourse.of_breakDown {message : String}
    (hc : BatchCourse others r events t h steps (.breakDown message) u h') :
    ∃ before e rest xs calls t₁ h₁ ys, events = before ++ e :: rest ∧ steps = xs ++ ys ∧
      HandledEach others before t h xs calls t₁ h₁ ∧
      (handle e).Run others t₁ h₁ ys (.breakDown message) u h' := by
  generalize hq : (Program.breakDown message : HostProgram BatchResult) = q at hc
  cases hc with
  | @handling before e rest xs calls t₁ h₁ ys p _ _ hevents hbefore hrun hp =>
    cases p with
    | breakDown message' =>
      cases hq
      exact ⟨before, e, rest, xs, calls, t₁, h₁, ys, hevents, rfl, hbefore, hrun⟩
    | done outcome => exact absurd rfl (hp outcome)
    | _ => cases hq
  | noting => cases hq
  | ended => cases hq

/-- A batch can be run on to its end, wherever it is. -/
theorem handleEach_runs_on {q : HostProgram BatchResult}
    (hrun : (handleEach events r).Run others t h steps q u h') :
    ∃ o more v h'', q.Run others u h' more (ended o) v h'' := by
  obtain ⟨o, more, hends⟩ := ((handleEach_works events r).timed.run hrun).alone_ends u h'
  exact ⟨o, more, _, _, hends.mono fun _ _ => False.elim⟩

/-! ## Batches -/

/-- What a run of a batch has come to: it stands somewhere in the course of its events. It has a
result once each of them has been handled, and the result tells of each id what the last of its
events has come to. It is broken off without one only where handling an event is, and it can be
run on to one of these ends. -/
structure BatchRun (others : Host → Host → Prop) (events : List Event) (t : Nat) (h : Host)
    (steps : List (Step Host)) (q : HostProgram BatchResult) (u : Nat) (h' : Host) : Prop where
  course : BatchCourse others .empty events t h steps q u h'
  result : ∀ result, q = .done result → ∃ calls, HandledEach others events t h steps calls u h' ∧
    calls.map (·.1) = events.map Event.id ∧ result.Tells HostError.message calls
  breaksDown : ∀ message, q = .breakDown message → ∃ before e rest xs calls t₁ h₁ ys,
    events = before ++ e :: rest ∧ steps = xs ++ ys ∧
    HandledEach others before t h xs calls t₁ h₁ ∧
    (handle e).Run others t₁ h₁ ys (.breakDown message) u h'
  runsOn : ∃ o more v h'', q.Run others u h' more (ended o) v h''

/-- In whatever order successes and failures are recorded, the result tells of each id what was
recorded last for it. A batch handles each of its events once, one after another, whatever comes
of them and whatever others do meanwhile, and its result tells of each id what the last of its
events has come to. If every call of foreign code returns, it comes to that result. If one breaks
down, so does the event in which it was made, and the batch ends there. -/
theorem handleBatch_tells_last (others : Host → Host → Prop) (events : List Event) :
    (∀ (ε : Type) (wording : ε → String) (calls : List (String × Except ε Unit)),
      (BatchResult.empty.recordAll wording calls).Tells wording calls) ∧
    (∀ t h steps q u h', (handleBatch events).Run others t h steps q u h' →
      BatchRun others events t h steps q u h') ∧
    ∀ t h, (∃ o u h', (handleBatch events).Ends t h o u h') ∧
      ∀ o u h', (handleBatch events).Ends t h o u h' →
        (∃ result, o = .ok result) ∨ ∃ message, o = .error message ∧ h'.BrokeDown message := by
  refine ⟨fun ε => BatchResult.tells_recordAll, fun t h steps q u h' hrun => ?_, fun t h => ?_⟩
  · have hcourse := handleEach_course hrun
    refine ⟨hcourse, ?_, ?_, handleEach_runs_on hrun⟩
    · rintro result rfl
      obtain ⟨calls, hall, rfl⟩ := hcourse.of_done
      exact ⟨calls, hall, hall.ids, BatchResult.tells_recordAll _ calls⟩
    · rintro message rfl
      exact hcourse.of_breakDown
  · refine ⟨handleBatch_ends events t h, fun o u h' hends => ?_⟩
    cases o with
    | ok result => exact .inl ⟨result, rfl⟩
    | error message =>
      exact .inr ⟨message, rfl, (handleEach_blames events .empty).blames rfl hends⟩

/-- A host that serves two extensions, and makes up nothing for what it cannot construct. -/
private def strictHost : Host :=
  .serving { LifecyclePolicy.default with syntheticFallback := false }
    (.uniform "e" .idle .zero) ["a", "b"]

/-- Two events for each of two ids, a failure and a success. -/
private def contrary : List Event :=
  [.of .enable (.at "missing" "a"), .of .enable (.at "e" "b"), .of .enable (.at "e" "a"),
    .of .update (.at "missing" "b")]

/-- One extension fails first and succeeds then, and the other one the other way round. -/
theorem handleBatch_tells_contrary :
    ∃ result u h', (handleBatch contrary).Ends 7 strictHost (.ok result) u h' ∧
      result.succeeded = ["a"] ∧ result.failed = ["b"] ∧
      ∃ steps calls, HandledEach Undisturbed contrary 7 strictHost steps calls u h' ∧
        calls.map (·.1) = ["a", "b", "a", "b"] ∧ result.Tells HostError.message calls := by
  have hrun : ((handleBatch contrary).alone 7 strictHost).2.1.value?.map
      (fun r => (r.succeeded, r.failed)) = some (["a"], ["b"]) := by
    decide +kernel
  obtain ⟨result, hvalue, hgroups⟩ := Option.map_eq_some_iff.mp hrun
  obtain ⟨hsucceeded, hfailed⟩ := Prod.mk.inj hgroups
  obtain ⟨steps, hends⟩ := ends_of_value? hvalue
  obtain ⟨calls, hall, hids, htells⟩ :=
    ((handleBatch_tells_last Undisturbed contrary).2.1 _ _ _ _ _ _ hends).result result rfl
  exact ⟨result, _, _, ⟨steps, hends⟩, hsucceeded, hfailed, steps, calls, hall, hids, htells⟩

/-- A host with an extension on disk that breaks down when it is started, and with another one
that is registered. -/
private def halting : Host :=
  let conduct := { Conduct.idle with
    respond := fun call _ => ⟨0, if call = .start then .brokeDown "start" else .succeeded⟩ }
  { Host.serving LifecyclePolicy.default (.uniform "e" conduct .zero) ["a"] with
    instances := [.ofBlueprint ⟨.at "e" "b", true, conduct, .zero⟩ none]
    registry := Registry.empty.insert "b" 0 none }

/-- By itself the removal succeeds. But if an extension breaks down in the event before it, then
the batch has no result, and the removal has not been handled: nothing was taken out. -/
theorem handleBatch_ends_with_break_down :
    let enable : Event := .of .enable (.at "e" "a")
    let remove : Event := .of .remove (.at "e" "b")
    (∃ u h', (handle remove).Ends 7 halting (.ok (.ok ())) u h' ∧
      .unregistered "b" 0 ∈ h'.past) ∧
    ∃ message u h', (handleBatch [enable, remove]).Ends 7 halting (.error message) u h' ∧
      .unregistered "b" 0 ∉ h'.past ∧ (h'.record? "b").isSome := by
  intro enable remove
  have hremoved : ((handle remove).alone 7 halting).2.1.value? = some (.ok ()) := by
    decide +kernel
  have hbroke : ((handleBatch [enable, remove]).alone 7 halting).2.1.message? = some "start" := by
    decide +kernel
  exact ⟨⟨_, _, ends_of_value? hremoved, by decide +kernel⟩,
    _, _, _, ends_of_message? hbroke, by decide +kernel, by decide +kernel⟩

end ExtensionHost
