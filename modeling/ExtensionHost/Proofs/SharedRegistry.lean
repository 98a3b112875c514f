import Mathlib.Data.List.Perm.Basic
import Mathlib.Logic.Relation
import ExtensionHost.Proofs.Deed

/-!
# The registry under concurrent calls

Calls that register and take out may overlap. A call takes the entry of its id before it
changes anything, changes the context that is kept for the id and then the record, and gives
the entry back. No other call on the id has the entry meanwhile, but calls on other ids
change the two tables between its changes.

Whenever no call on an id is in progress, both tables have what the last call on the id that
took the entry has left. A call that is rejected takes no entry and changes nothing.
-/

namespace ExtensionHost

variable {contextOf : Nat → Option Context} {id : String}

/-! ## Calls -/

/-- A call of the registry. -/
inductive RegistryCall where
  | register (id : String) (number : Nat)
  | unregister (id : String)
  deriving DecidableEq, Repr

namespace RegistryCall

/-- The id that a call is about. -/
def key : RegistryCall → String
  | .register id _ | .unregister id => id

/-- The instance that a call leaves registered. -/
def number? : RegistryCall → Option Nat
  | .register _ number => some number
  | .unregister _ => none

/-- Whether a call is rejected. -/
def isRejected : RegistryCall → Bool
  | .register id _ => isBlankText id
  | .unregister _ => false

/-- The context that a call leaves, where `contextOf` gives those of the instances. -/
def context? (contextOf : Nat → Option Context) (call : RegistryCall) : Option Context :=
  call.number?.bind contextOf

/-- The first change of a call. -/
def changeContext (contextOf : Nat → Option Context) (call : RegistryCall) (r : Registry) :
    Registry :=
  r.storeContext call.key (call.context? contextOf)

/-- The second change of a call. -/
def changeRecord : RegistryCall → Registry → Registry
  | .register id number, r => r.storeRecord id number
  | .unregister id, r => r.dropRecord id

@[simp] theorem get?_changeContext {call : RegistryCall} {r : Registry} :
    (call.changeContext contextOf r).get? id = r.get? id := by
  unfold changeContext
  cases call.context? contextOf <;> rfl

@[simp] theorem context?_changeContext {call : RegistryCall} {r : Registry} :
    (call.changeContext contextOf r).context? id =
      if id = call.key then call.context? contextOf else r.context? id := by
  unfold changeContext
  cases call.context? contextOf with
  | none => exact lookup_eraseEntry
  | some context => exact lookup_insertEntry

@[simp] theorem get?_changeRecord {call : RegistryCall} {r : Registry} :
    (call.changeRecord r).get? id = if id = call.key then call.number? else r.get? id := by
  cases call with
  | register key number => exact lookup_insertEntry
  | unregister key => exact lookup_eraseEntry

@[simp] theorem context?_changeRecord {call : RegistryCall} {r : Registry} :
    (call.changeRecord r).context? id = r.context? id := by
  cases call <;> rfl

end RegistryCall

/-- How far a call is. It has the entry of its id from `holding` to `recordChanged`. -/
inductive CallStage where
  | begun
  | holding
  | contextChanged
  | recordChanged
  | over
  deriving DecidableEq, Repr

/-- Whether a call has the entry of its id. -/
def CallStage.holds : CallStage → Bool
  | .holding | .contextChanged | .recordChanged => true
  | .begun | .over => false

/-! ## Interleavings -/

/-- A registry with the calls that have begun, in the order they began, and those that took
the entry of their id, the last one first. -/
structure SharedRegistry where
  registry : Registry
  calls : List (RegistryCall × CallStage)
  held : List RegistryCall

namespace SharedRegistry

variable {s s' : SharedRegistry} {j k : Nat} {call other : RegistryCall} {stage : CallStage}

/-- Nothing is registered, and no call has begun. -/
def fresh : SharedRegistry := ⟨.empty, [], []⟩

/-- A call has the entry of an id. -/
def Holds (s : SharedRegistry) (id : String) (k : Nat) (call : RegistryCall)
    (stage : CallStage) : Prop :=
  s.calls[k]? = some (call, stage) ∧ call.key = id ∧ stage.holds = true

/-- No call has the entry of an id. -/
def IsFree (s : SharedRegistry) (id : String) : Prop :=
  ∀ call ∈ s.calls, call.1.key = id → call.2.holds = false

/-- No call on an id is in progress. -/
def IsQuiet (s : SharedRegistry) (id : String) : Prop :=
  ∀ call ∈ s.calls, call.1.key = id → call.2 = .over

instance : Decidable (s.IsFree id) :=
  inferInstanceAs (Decidable (∀ call ∈ s.calls, _))

instance : Decidable (s.IsQuiet id) :=
  inferInstanceAs (Decidable (∀ call ∈ s.calls, _))

theorem isFree_iff : s.IsFree id ↔ ∀ k call stage, ¬ s.Holds id k call stage := by
  constructor
  · intro hfree k call stage ⟨hk, hid, hholds⟩
    simp [hfree _ (List.mem_of_getElem? hk) hid] at hholds
  · rintro hfree ⟨call, stage⟩ hmem hid
    obtain ⟨k, hk⟩ := List.getElem?_of_mem hmem
    simpa [Holds, hk, hid] using hfree k call stage

theorem IsQuiet.isFree (hs : s.IsQuiet id) : s.IsFree id := by
  intro call hmem hid
  rw [hs call hmem hid]
  rfl

/-- The call comes to a stage. -/
def moveTo (s : SharedRegistry) (k : Nat) (call : RegistryCall) (stage : CallStage) :
    SharedRegistry :=
  { s with calls := s.calls.set k (call, stage) }

/-- What happens at once: a call begins, is rejected, takes the entry of its id if no other
call has it, makes one of its two changes, or gives the entry back. -/
inductive Step (contextOf : Nat → Option Context) (s : SharedRegistry) : SharedRegistry → Prop where
  | begins (call : RegistryCall) :
    Step contextOf s { s with calls := s.calls ++ [(call, .begun)] }
  | rejects {k : Nat} {call : RegistryCall} : s.calls[k]? = some (call, .begun) →
    call.isRejected = true → Step contextOf s (s.moveTo k call .over)
  | enters {k : Nat} {call : RegistryCall} : s.calls[k]? = some (call, .begun) →
    call.isRejected = false → s.IsFree call.key →
    Step contextOf s { s.moveTo k call .holding with held := call :: s.held }
  | changesContext {k : Nat} {call : RegistryCall} : s.calls[k]? = some (call, .holding) →
    Step contextOf s { s.moveTo k call .contextChanged with
      registry := call.changeContext contextOf s.registry }
  | changesRecord {k : Nat} {call : RegistryCall} : s.calls[k]? = some (call, .contextChanged) →
    Step contextOf s { s.moveTo k call .recordChanged with
      registry := call.changeRecord s.registry }
  | leaves {k : Nat} {call : RegistryCall} : s.calls[k]? = some (call, .recordChanged) →
    Step contextOf s (s.moveTo k call .over)

/-- What is reached by calls on an empty registry, in any interleaving. -/
def Reached (contextOf : Nat → Option Context) (s : SharedRegistry) : Prop :=
  Relation.ReflTransGen (Step contextOf) fresh s

/-! ## Which calls took an entry -/

/-- What a call at a stage counts for: for itself if it has taken the entry of its id. -/
def counted (call : RegistryCall) (stage : CallStage) : List RegistryCall :=
  if call.isRejected || decide (stage = .begun) then [] else [call]

/-- The calls that were accepted and do not wait for the entry of their id any more. -/
def entered (s : SharedRegistry) : List RegistryCall :=
  s.calls.flatMap fun call => counted call.1 call.2

/-- The other calls count for the same, however far one gets. -/
theorem entered_moveTo (hk : s.calls[k]? = some (call, stage)) :
    ∃ before after, s.entered = before ++ (counted call stage ++ after) ∧
      ∀ next, (s.moveTo k call next).entered = before ++ (counted call next ++ after) := by
  obtain ⟨hlt, hget⟩ := List.getElem?_eq_some_iff.mp hk
  let part (calls : List (RegistryCall × CallStage)) := calls.flatMap fun call =>
    counted call.1 call.2
  have hmoved : ∀ next, (s.moveTo k call next).entered =
      part (s.calls.take k) ++ (counted call next ++ part (s.calls.drop (k + 1))) := by
    intro next
    rw [entered, moveTo, List.set_eq_take_append_cons_drop, if_pos hlt, List.flatMap_append,
      List.flatMap_cons]
  have hsame : s.moveTo k call stage = s := by
    simp only [moveTo, ← hget, List.set_getElem_self]
  exact ⟨_, _, by rw [← hmoved stage, hsame], hmoved⟩

theorem entered_moveTo_of_counted (hk : s.calls[k]? = some (call, stage)) (next : CallStage)
    (hcounted : counted call next = counted call stage) :
    (s.moveTo k call next).entered = s.entered := by
  obtain ⟨before, after, hbefore, hmoved⟩ := entered_moveTo hk
  rw [hmoved, hbefore, hcounted]

/-- The calls that took an entry are all those that were accepted, each of them once. -/
theorem Reached.held_perm (hs : s.Reached contextOf) : s.held.Perm s.entered := by
  induction hs with
  | refl => exact .nil
  | @tail s s' _ hstep ih =>
    cases hstep with
    | begins call => simpa [entered, counted] using ih
    | @rejects k call hk hrejected =>
      have hcounted : counted call .over = counted call .begun := by simp [counted, hrejected]
      exact ih.trans (.of_eq (entered_moveTo_of_counted hk _ hcounted).symm)
    | @enters k call hk haccepted _ =>
      obtain ⟨before, after, hbefore, hmoved⟩ := entered_moveTo hk
      have hmore : (s.moveTo k call .holding).entered.Perm (call :: s.entered) := by
        rw [hmoved, hbefore]
        simp [counted, haccepted]
      exact (ih.cons call).trans hmore.symm
    | changesContext hk =>
      exact ih.trans (.of_eq (entered_moveTo_of_counted hk .contextChanged rfl).symm)
    | changesRecord hk =>
      exact ih.trans (.of_eq (entered_moveTo_of_counted hk .recordChanged rfl).symm)
    | leaves hk => exact ih.trans (.of_eq (entered_moveTo_of_counted hk .over rfl).symm)

/-! ## What the tables have -/

/-- The call on an id that took the entry last. -/
def last? (s : SharedRegistry) (id : String) : Option RegistryCall :=
  s.held.find? (·.key = id)

/-- What a registry has under the id of a call that has come to a stage. -/
def Shows (contextOf : Nat → Option Context) (r : Registry) (call : RegistryCall) :
    CallStage → Prop
  | .contextChanged => r.context? call.key = call.context? contextOf
  | .recordChanged =>
    r.context? call.key = call.context? contextOf ∧ r.get? call.key = call.number?
  | .begun | .holding | .over => True

/-- How an id stands: its entry is free, and the tables have what the last call has left; or
one call has the entry, which is the last one, and they have what it has changed. -/
inductive Stands (contextOf : Nat → Option Context) (s : SharedRegistry) (id : String) : Prop where
  | free : s.IsFree id → s.registry.get? id = (s.last? id).bind (·.number?) →
    s.registry.context? id = (s.last? id).bind (·.context? contextOf) → Stands contextOf s id
  | held {k : Nat} {call : RegistryCall} {stage : CallStage} : s.Holds id k call stage →
    (∀ j other stage', s.Holds id j other stage' → j = k) → s.last? id = some call →
    Shows contextOf s.registry call stage → Stands contextOf s id

variable {r : Registry}

/-- An id stands as before if its entry is held as before, the last call on it is the same,
and the tables have the same under it. -/
theorem Stands.congr (hs : s.Stands contextOf id)
    (hholds : ∀ k call stage, s'.Holds id k call stage ↔ s.Holds id k call stage)
    (hlast : s'.last? id = s.last? id) (hget : s'.registry.get? id = s.registry.get? id)
    (hcontext : s'.registry.context? id = s.registry.context? id) : s'.Stands contextOf id := by
  cases hs with
  | free hfree hrecord hkept =>
    refine .free (isFree_iff.mpr fun k call stage hk =>
      isFree_iff.mp hfree k call stage ((hholds k call stage).mp hk)) ?_ ?_
    · rw [hget, hlast, hrecord]
    · rw [hcontext, hlast, hkept]
  | @held k call stage hk hone hcall hshows =>
    refine .held ((hholds k call stage).mpr hk)
      (fun j other stage' hj => hone j other stage' ((hholds j other stage').mp hj))
      (hlast.trans hcall) ?_
    obtain ⟨-, rfl, -⟩ := hk
    cases stage <;> simp_all [Shows]

/-- After a call has moved, it has the entry of its id or not as its stage says, and other
calls have the entries of their ids as before. -/
theorem holds_moveTo (hk : s.calls[k]? = some (call, stage)) {next stage' : CallStage} :
    (s.moveTo k call next).Holds id j other stage' ↔
      if j = k then other = call ∧ stage' = next ∧ call.key = id ∧ next.holds = true
      else s.Holds id j other stage' := by
  obtain ⟨hlt, -⟩ := List.getElem?_eq_some_iff.mp hk
  unfold Holds moveTo
  by_cases hj : j = k
  · subst hj
    simp only [List.getElem?_set_self hlt, Option.some.injEq, Prod.mk.injEq, if_true]
    constructor
    · rintro ⟨⟨rfl, rfl⟩, hid, hholds⟩
      exact ⟨rfl, rfl, hid, hholds⟩
    · rintro ⟨rfl, rfl, hid, hholds⟩
      exact ⟨⟨rfl, rfl⟩, hid, hholds⟩
  · rw [if_neg hj]
    simp only [List.getElem?_set_ne (Ne.symm hj)]

/-- A call that begins has no entry. -/
theorem holds_begins :
    Holds { s with calls := s.calls ++ [(call, .begun)] } id j other stage ↔
      s.Holds id j other stage := by
  unfold Holds
  rcases Nat.lt_trichotomy j s.calls.length with hj | rfl | hj
  · rw [List.getElem?_append_left hj]
  · rw [List.getElem?_concat_length, List.getElem?_eq_none (Nat.le_refl _)]
    constructor
    · rintro ⟨hj, -, hholds⟩
      obtain ⟨-, rfl⟩ := Prod.mk.inj (Option.some.inj hj)
      exact absurd hholds Bool.false_ne_true
    · rintro ⟨hj, -⟩
      cases hj
  · rw [List.getElem?_eq_none (Nat.le_of_lt hj),
      List.getElem?_eq_none (by simpa using Nat.succ_le_of_lt hj)]

/-- Another id stands as before when a call moves. -/
theorem Stands.moveTo_of_ne (hs : s.Stands contextOf id)
    (hk : s.calls[k]? = some (call, stage)) (hid : id ≠ call.key) {next : CallStage}
    (hcalls : s'.calls = (s.moveTo k call next).calls) (hlast : s'.last? id = s.last? id)
    (hget : s'.registry.get? id = s.registry.get? id)
    (hcontext : s'.registry.context? id = s.registry.context? id) : s'.Stands contextOf id := by
  refine hs.congr (fun j other stage' => ?_) hlast hget hcontext
  have hmoved : s'.Holds id j other stage' ↔ (s.moveTo k call next).Holds id j other stage' := by
    rw [Holds, Holds, hcalls]
  refine (hmoved.trans (holds_moveTo hk)).trans ?_
  split
  case isTrue hj =>
    subst hj
    refine ⟨fun hheld => absurd hheld.2.2.1.symm hid, fun ⟨hother, hkey, _⟩ => ?_⟩
    obtain ⟨rfl, -⟩ := Prod.mk.inj (Option.some.inj (hk.symm.trans hother))
    exact absurd hkey.symm hid
  case isFalse => rfl

/-- A call that has the entry of its id is the only one, and it is the last one that took it. -/
theorem Stands.keeper (hs : s.Stands contextOf call.key) (hk : s.calls[k]? = some (call, stage))
    (hheld : stage.holds = true) :
    (∀ j other stage', s.Holds call.key j other stage' → j = k) ∧
      s.last? call.key = some call ∧ Shows contextOf s.registry call stage := by
  cases hs with
  | free hfree => exact absurd ⟨hk, rfl, hheld⟩ (isFree_iff.mp hfree k call stage)
  | held hkeeper hone hlast hshown =>
    obtain rfl := hone k call stage ⟨hk, rfl, hheld⟩
    obtain ⟨rfl, rfl⟩ := Prod.mk.inj (Option.some.inj (hkeeper.1.symm.trans hk))
    exact ⟨hone, hlast, hshown⟩

/-- A call that has come to a stage at which it has the entry is the only one then. -/
theorem only_moveTo (hk : s.calls[k]? = some (call, stage)) (next : CallStage)
    (hone : ∀ j other stage', s.Holds call.key j other stage' → j = k) (j : Nat)
    (other : RegistryCall) (stage' : CallStage)
    (hj : (s.moveTo k call next).Holds call.key j other stage') : j = k := by
  by_contra hne
  rw [holds_moveTo hk, if_neg hne] at hj
  exact hne (hone j other stage' hj)

/-- The id of a call that has the entry stands well after the next change of the call. -/
theorem Stands.moveTo_held (hs : s.Stands contextOf call.key)
    (hk : s.calls[k]? = some (call, stage)) (hheld : stage.holds = true) {next : CallStage}
    (hnext : next.holds = true)
    (hshows : Shows contextOf s.registry call stage → Shows contextOf r call next) :
    Stands contextOf { s.moveTo k call next with registry := r } call.key := by
  obtain ⟨hone, hlast, hshown⟩ := hs.keeper hk hheld
  have hmoved : (s.moveTo k call next).Holds call.key k call next := by
    rw [holds_moveTo hk, if_pos rfl]
    exact ⟨rfl, rfl, rfl, hnext⟩
  exact .held hmoved (only_moveTo hk next hone) hlast (hshows hshown)

/-- An id stands as before when a call moves that does not have an entry, neither before
nor after. -/
theorem Stands.moveTo_idle (hs : s.Stands contextOf id) (hk : s.calls[k]? = some (call, stage))
    (hidle : stage.holds = false) {next : CallStage} (hnext : next.holds = false) :
    (s.moveTo k call next).Stands contextOf id := by
  refine hs.congr (fun j other stage' => (holds_moveTo hk).trans ?_) rfl rfl rfl
  split
  case isTrue hj =>
    subst hj
    simp [Holds, hk, hnext]
    rintro rfl rfl -
    simp [hidle]
  case isFalse => rfl

/-- A call that takes the entry of an id is the last one on it, and the only one that has it. -/
theorem stands_entered (hk : s.calls[k]? = some (call, .begun)) (hfree : s.IsFree call.key) :
    Stands contextOf { s.moveTo k call .holding with held := call :: s.held } call.key := by
  have hmoved : (s.moveTo k call .holding).Holds call.key k call .holding := by
    rw [holds_moveTo hk, if_pos rfl]
    exact ⟨rfl, rfl, rfl, rfl⟩
  have hone := only_moveTo hk .holding fun j other stage' hj =>
    absurd hj (isFree_iff.mp hfree j other stage')
  exact .held hmoved hone (by simp [last?]) trivial

/-- A call that gives the entry back leaves its id free, and the tables with what it leaves. -/
theorem Stands.leaves (hs : s.Stands contextOf call.key)
    (hk : s.calls[k]? = some (call, .recordChanged)) :
    (s.moveTo k call .over).Stands contextOf call.key := by
  obtain ⟨hone, hlast, hcontext, hget⟩ := hs.keeper hk rfl
  have hfree : (s.moveTo k call .over).IsFree call.key := by
    refine isFree_iff.mpr fun j other stage' hj => ?_
    obtain rfl := only_moveTo hk .over hone j other stage' hj
    rw [holds_moveTo hk, if_pos rfl] at hj
    exact Bool.false_ne_true hj.2.2.2
  have hlast' : (s.moveTo k call .over).last? call.key = some call := hlast
  refine .free hfree ?_ ?_
  · rw [hlast']
    exact hget
  · rw [hlast']
    exact hcontext

/-- Every step leaves every id standing well. -/
theorem Step.stands (hstep : Step contextOf s s') (hs : ∀ id, s.Stands contextOf id) (id : String) :
    s'.Stands contextOf id := by
  cases hstep with
  | begins call =>
    exact (hs id).congr (fun _ _ _ => holds_begins) rfl rfl rfl
  | @rejects k call hk _ => exact (hs id).moveTo_idle hk rfl rfl
  | @enters k call hk _ hfree =>
    rcases eq_or_ne id call.key with rfl | hid
    · exact stands_entered hk hfree
    · exact (hs id).moveTo_of_ne hk hid rfl (by simp [last?, Ne.symm hid]) rfl rfl
  | @changesContext k call hk =>
    rcases eq_or_ne id call.key with rfl | hid
    · exact (hs call.key).moveTo_held hk rfl rfl fun _ => by simp [Shows]
    · exact (hs id).moveTo_of_ne hk hid rfl rfl (by simp) (by simp [hid])
  | @changesRecord k call hk =>
    rcases eq_or_ne id call.key with rfl | hid
    · exact (hs call.key).moveTo_held hk rfl rfl fun hshown => by simpa [Shows] using hshown
    · exact (hs id).moveTo_of_ne hk hid rfl rfl (by simp [hid]) (by simp)
  | @leaves k call hk =>
    rcases eq_or_ne id call.key with rfl | hid
    · exact (hs call.key).leaves hk
    · exact (hs id).moveTo_of_ne hk hid rfl rfl rfl rfl

theorem Reached.stands (hs : s.Reached contextOf) (id : String) : s.Stands contextOf id := by
  induction hs generalizing id with
  | refl => exact .free (fun _ hmem => absurd hmem List.not_mem_nil) rfl rfl
  | tail _ hstep ih => exact hstep.stands ih id

/-! ## Registered records and their contexts -/

theorem last?_eq_some : s.last? id = some call ↔
    ∃ later earlier, s.held = later ++ call :: earlier ∧ call.key = id ∧
      ∀ other ∈ later, other.key ≠ id := by
  simp only [last?, List.find?_eq_some_iff_append, decide_eq_true_eq]
  constructor
  · rintro ⟨hkey, later, earlier, hheld, hlater⟩
    exact ⟨later, earlier, hheld, hkey, by simpa using hlater⟩
  · rintro ⟨later, earlier, hheld, hkey, hlater⟩
    exact ⟨hkey, later, earlier, hheld, by simpa using hlater⟩

/-- Whenever no call on an id is in progress, the context that is kept for the id is that of
the record registered under it, and an instance is registered under it exactly if one of the
calls registered that instance and no later call on the id took the entry. -/
theorem Reached.registered_iff (hs : s.Reached contextOf) (hquiet : s.IsQuiet id) :
    (∀ context, s.registry.context? id = some context ↔
      ∃ number, s.registry.get? id = some number ∧ contextOf number = some context) ∧
    ∀ number, s.registry.get? id = some number ↔
      ∃ later earlier, s.held = later ++ .register id number :: earlier ∧
        ∀ call ∈ later, call.key ≠ id := by
  cases hs.stands id with
  | held hk => exact absurd hk (isFree_iff.mp hquiet.isFree _ _ _)
  | free _ hget hcontext =>
    constructor
    · intro context
      rw [hget, hcontext]
      cases s.last? id with
      | none => simp
      | some call => simp [RegistryCall.context?, Option.bind_eq_some_iff]
    · intro number
      rw [hget]
      constructor
      · intro hnumber
        obtain ⟨call, hlast, hcall⟩ := Option.bind_eq_some_iff.mp hnumber
        obtain ⟨later, earlier, hheld, hkey, hlater⟩ := last?_eq_some.mp hlast
        cases call with
        | unregister => cases hcall
        | register key number' =>
          obtain rfl : number' = number := Option.some.inj hcall
          obtain rfl : key = id := hkey
          exact ⟨later, earlier, hheld, hlater⟩
      · rintro ⟨later, earlier, hheld, hlater⟩
        have hlast : s.last? id = some (.register id number) :=
          last?_eq_some.mpr ⟨later, earlier, hheld, rfl, hlater⟩
        rw [hlast]
        rfl

/-- The contexts of two instances. -/
private def twoContexts (number : Nat) : Option Context :=
  [Context.of "a" ⟨"a"⟩ [], Context.of "b" ⟨"b"⟩ []][number]?

private def first : RegistryCall := .register "a" 0

private def second : RegistryCall := .register "a" 1

private def third : RegistryCall := .register "b" 1

/-- Two calls on one id are over, of which the second one took the entry before the first one.
A call on another id has begun between the changes of the first one, and is in progress. -/
private def overlapped : SharedRegistry :=
  let after := second.changeRecord (second.changeContext twoContexts .empty)
  ⟨first.changeRecord (third.changeContext twoContexts (first.changeContext twoContexts after)),
    [(first, .over), (second, .over), (third, .contextChanged)], [third, first, second]⟩

private theorem overlapped_reached : overlapped.Reached twoContexts := by
  have hbegun : Reached twoContexts _ := (Relation.ReflTransGen.refl.tail (.begins first)).tail
    (.begins second)
  have hsecond := (((hbegun.tail (@Step.enters _ _ 1 second rfl (by decide) (by decide))).tail
    (@Step.changesContext _ _ 1 second rfl)).tail (@Step.changesRecord _ _ 1 second rfl)).tail
    (@Step.leaves _ _ 1 second rfl)
  have hthird := (((hsecond.tail (@Step.enters _ _ 0 first rfl (by decide) (by decide))).tail
    (@Step.changesContext _ _ 0 first rfl)).tail (.begins third)).tail
    (@Step.enters _ _ 2 third rfl (by decide) (by decide))
  exact ((hthird.tail (@Step.changesContext _ _ 2 third rfl)).tail
    (@Step.changesRecord _ _ 0 first rfl)).tail (@Step.leaves _ _ 0 first rfl)

/-- The instance of the call that took the entry last is registered, with its context. -/
theorem overlapped_registered :
    overlapped.Reached twoContexts ∧ overlapped.IsQuiet "a" ∧ ¬ overlapped.IsQuiet "b" ∧
      overlapped.registry.get? "a" = some 0 ∧
      overlapped.registry.context? "a" = some (Context.of "a" ⟨"a"⟩ []) := by
  have hquiet : overlapped.IsQuiet "a" := by decide
  obtain ⟨hcontext, hrecord⟩ := overlapped_reached.registered_iff hquiet
  have hget : overlapped.registry.get? "a" = some 0 :=
    (hrecord 0).mpr ⟨[third], [second], rfl, by decide⟩
  exact ⟨overlapped_reached, hquiet, by decide, hget, (hcontext _).mpr ⟨0, hget, rfl⟩⟩

end SharedRegistry

/-! ## One call at a time -/

/-- What a call makes of a registry if no other call runs meanwhile. -/
def RegistryCall.apply (contextOf : Nat → Option Context) (call : RegistryCall) (r : Registry) :
    Registry :=
  if call.isRejected then r else call.changeRecord (call.changeContext contextOf r)

/-- The contexts of the instances of a host. -/
def Host.contexts (h : Host) (number : Nat) : Option Context :=
  (h.instance? number).bind (·.context)

/-- A host registers as a call does that runs alone. -/
theorem Host.register_registry {h : Host} {now number : Nat} :
    (h.register now id number).2.registry =
      (RegistryCall.register id number).apply h.contexts h.registry := by
  cases hblank : isBlankText id with
  | true => simp [register_blank hblank, RegistryCall.apply, RegistryCall.isRejected, hblank]
  | false =>
    rw [register_not_blank hblank]
    simp only [RegistryCall.apply, RegistryCall.isRejected, hblank]
    rfl

/-- A host takes out as a call does that runs alone. -/
theorem Host.unregister_apply {h : Host} {now : Nat} :
    (h.unregister now id).2.registry = (RegistryCall.unregister id).apply h.contexts h.registry :=
  Host.unregister_registry

namespace SharedRegistry

variable {s : SharedRegistry} {call : RegistryCall}

/-- The registry when a call has begun last and has come to a stage. -/
def withLast (s : SharedRegistry) (call : RegistryCall) (stage : CallStage) (r : Registry)
    (held : List RegistryCall) : SharedRegistry :=
  ⟨r, s.calls ++ [(call, stage)], held⟩

theorem moveTo_withLast {r : Registry} {held : List RegistryCall} {stage next : CallStage} :
    (s.withLast call stage r held).moveTo s.calls.length call next =
      s.withLast call next r held := by
  simp [withLast, moveTo]

/-- A call can run alone if no other has the entry of its id, and makes of the registry then
what it makes of it at once. -/
theorem exists_alone (hfree : s.IsFree call.key) :
    ∃ s', Relation.ReflTransGen (Step contextOf) s s' ∧
      s'.registry = call.apply contextOf s.registry ∧ s'.calls = s.calls ++ [(call, .over)] := by
  have hlast : ∀ stage r held,
      (s.withLast call stage r held).calls[s.calls.length]? = some (call, stage) :=
    fun _ _ _ => List.getElem?_concat_length
  have hbegins : Relation.ReflTransGen (Step contextOf) s
      (s.withLast call .begun s.registry s.held) :=
    .single (.begins call)
  cases hrejected : call.isRejected with
  | true =>
    have hrejects : Step contextOf _ _ := .rejects (hlast .begun s.registry s.held) hrejected
    rw [moveTo_withLast] at hrejects
    refine ⟨_, hbegins.tail hrejects, ?_, rfl⟩
    simp [withLast, RegistryCall.apply, hrejected]
  | false =>
    have hstill : (s.withLast call .begun s.registry s.held).IsFree call.key :=
      isFree_iff.mpr fun j other stage hj =>
        isFree_iff.mp hfree j other stage (holds_begins.mp hj)
    have henters : Step contextOf _ _ := .enters (hlast .begun s.registry s.held) hrejected hstill
    have hcontext : Step contextOf _ _ :=
      .changesContext (hlast .holding s.registry (call :: s.held))
    have hrecord : Step contextOf _ _ := .changesRecord
      (hlast .contextChanged (call.changeContext contextOf s.registry) (call :: s.held))
    have hleaves : Step contextOf _ _ := .leaves (hlast .recordChanged
      (call.changeRecord (call.changeContext contextOf s.registry)) (call :: s.held))
    rw [moveTo_withLast] at henters hcontext hrecord hleaves
    refine ⟨_, (((hbegins.tail henters).tail hcontext).tail hrecord).tail hleaves, ?_, rfl⟩
    simp [withLast, RegistryCall.apply, hrejected]

end SharedRegistry

end ExtensionHost
