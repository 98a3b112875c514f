import ExtensionHost.Descriptor
import ExtensionHost.Extension.Response

/-!
# Conduct

How an instance of an extension behaves towards the host: how it answers each
call, what it exposes, and how much traffic it serves.
-/

namespace ExtensionHost

/-! ## Calls -/

/-- A call of the host on an instance. -/
inductive Call where
  | start
  | stop
  | prepare
  | closeConnections
  | cleanup (disable : Bool)
  deriving DecidableEq, Repr

/-! ## Traffic -/

/-- How much traffic an instance serves. -/
structure Counters where
  pending : Nat
  active : Nat
  connections : Nat
  deriving DecidableEq, Repr

/-- No traffic. -/
def Counters.zero : Counters := ⟨0, 0, 0⟩

/-- A request has come in. -/
def Counters.beginRequest (c : Counters) : Counters :=
  { c with pending := c.pending + 1, active := c.active + 1 }

/-- A request has been answered. -/
def Counters.endRequest (c : Counters) : Counters :=
  { c with pending := c.pending - 1, active := c.active - 1 }

/-- A connection has been opened. -/
def Counters.openConnection (c : Counters) : Counters :=
  { c with connections := c.connections + 1 }

/-- A connection has been closed. -/
def Counters.closeConnection (c : Counters) : Counters :=
  { c with connections := c.connections - 1 }

/-- All connections have been closed. -/
def Counters.resetConnections (c : Counters) : Counters :=
  { c with connections := 0 }

@[simp] theorem Counters.endRequest_beginRequest (c : Counters) :
    c.beginRequest.endRequest = c := rfl

@[simp] theorem Counters.closeConnection_openConnection (c : Counters) :
    c.openConnection.closeConnection = c := rfl

/-! ## Conduct -/

/-- How an instance behaves. The answer to a call may depend on the calls that the
same instance had before, the last one first; what other instances were called for it
does not see. Besides the traffic that is counted there may be a load of requests; it
depends on how long the instance has been disabled. A journaled instance leaves lines
in the journal, unless its hooks are silent. -/
structure Conduct where
  respond : Call → List Call → Response
  hasStatistics : Bool
  hasHooks : Bool
  closesConnections : Bool
  load : Option Nat → Nat
  journaled : Bool
  silentHooks : Bool

/-- Every call succeeds at once, and nothing is exposed. -/
def Conduct.idle : Conduct :=
  { respond := fun _ _ => .immediate
    hasStatistics := false
    hasHooks := false
    closesConnections := false
    load := fun _ => 0
    journaled := false
    silentHooks := true }

/-- What a constructor makes: an instance that has not been used yet. -/
structure Blueprint where
  descriptor : Descriptor
  exposesContext : Bool
  conduct : Conduct
  counters : Counters

end ExtensionHost
