import ExtensionHost.Extension.Context

/-!
# Instances

An instance of an extension as the host sees it: whether it is enabled and
started, what it serves, and which calls it has had.
-/

namespace ExtensionHost

/-! ## The type -/

/-- An instance with its state. The calls are the ones that have begun, the last
one first. -/
structure Instance where
  descriptor : Descriptor
  context : Option Context
  conduct : Conduct
  counters : Counters
  enabled : Bool
  started : Bool
  starts : Nat
  stops : Nat
  disabledAt : Option Nat
  calls : List Call

/-- A fresh instance, which is enabled and not started. -/
def Instance.ofBlueprint (b : Blueprint) (context : Option Context) : Instance :=
  { descriptor := b.descriptor
    context := if b.exposesContext then context else none
    conduct := b.conduct
    counters := b.counters
    enabled := true
    started := false
    starts := 0
    stops := 0
    disabledAt := none
    calls := [] }

/-- The id that the instance reports. -/
def Instance.id (i : Instance) : String :=
  i.descriptor.id

/-! ## Changes -/

/-- The instance has been started. -/
def Instance.markStarted (i : Instance) : Instance :=
  { i with started := true, starts := i.starts + 1 }

/-- The instance has been stopped. -/
def Instance.markStopped (i : Instance) : Instance :=
  { i with started := false, stops := i.stops + 1 }

/-- Enables or disables the instance at a time. The first time it is disabled is
kept. -/
def Instance.setEnabled (i : Instance) (now : Nat) (enabled : Bool) : Instance :=
  { i with
    enabled := enabled
    disabledAt := if enabled || i.disabledAt.isSome then i.disabledAt else some now }

/-- How the instance answers its next call. -/
def Instance.response (i : Instance) (call : Call) : Response :=
  i.conduct.respond call i.calls

/-- A call has begun. -/
def Instance.callBegun (i : Instance) (call : Call) : Instance :=
  { i with calls := call :: i.calls }

/-- A call has ended. Only one that succeeded changes the instance. -/
def Instance.callEnded (i : Instance) : Call → Ending → Instance
  | .start, .succeeded => i.markStarted
  | .stop, .succeeded => i.markStopped
  | .closeConnections, .succeeded =>
    if i.conduct.closesConnections then { i with counters := i.counters.resetConnections } else i
  | _, _ => i

/-! ## Traffic -/

/-- The load at a time. -/
def Instance.load (i : Instance) (now : Nat) : Nat :=
  i.conduct.load (i.disabledAt.map (now - ·))

/-- The requests that have not been answered at a time. -/
def Instance.pending (i : Instance) (now : Nat) : Nat :=
  i.counters.pending + i.load now

/-- The requests that are worked on at a time. -/
def Instance.active (i : Instance) (now : Nat) : Nat :=
  i.counters.active + i.load now

@[simp] theorem Instance.id_callBegun (i : Instance) (call : Call) :
    (i.callBegun call).id = i.id := rfl

@[simp] theorem Instance.id_setEnabled (i : Instance) (now : Nat) (enabled : Bool) :
    (i.setEnabled now enabled).id = i.id := rfl

@[simp] theorem Instance.calls_callBegun (i : Instance) (call : Call) :
    (i.callBegun call).calls = call :: i.calls := rfl

/-- The end of a call forgets none of the calls. -/
@[simp] theorem Instance.calls_callEnded (i : Instance) (call : Call) (ending : Ending) :
    (i.callEnded call ending).calls = i.calls := by
  unfold Instance.callEnded
  split <;> try rfl
  split <;> rfl

@[simp] theorem Instance.id_callEnded (i : Instance) (call : Call) (ending : Ending) :
    (i.callEnded call ending).id = i.id := by
  unfold Instance.callEnded
  split <;> try rfl
  split <;> rfl

end ExtensionHost
