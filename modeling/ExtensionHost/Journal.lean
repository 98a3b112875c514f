import ExtensionHost.Host.Basic
import ExtensionHost.Value.Codec

/-!
# The journal

The lines that journaled extensions, gateways and hooks leave behind, read off
the history of a host.
-/

namespace ExtensionHost

/-- A line of the journal: when it was written, for which extension, and what it
says. -/
structure JournalLine where
  time : Nat
  id : String
  text : String
  deriving DecidableEq, Repr

/-- The name of a call. -/
def Call.name : Call → String
  | .start => "start"
  | .stop => "stop"
  | .prepare => "prepare"
  | .closeConnections => "close"
  | .cleanup _ => "cleanup"

/-- The name of a call of a gateway. -/
def GatewayCall.name : GatewayCall → String
  | .stopAccepting => "stop"
  | .closeConnections => "close"

/-- Whether a call is one of the shutdown hooks. -/
def Call.isHook : Call → Bool
  | .prepare | .closeConnections => true
  | _ => false

/-- Whether an instance leaves lines about a call. -/
def Conduct.journals (c : Conduct) (call : Call) : Bool :=
  c.journaled && !(call.isHook && c.silentHooks)

/-- The text about a call that begins. -/
def callText? (id : String) : Call → Option String
  | .prepare => some ("prepare:" ++ id)
  | .closeConnections => some ("close:" ++ id)
  | .cleanup disable => some ("cleanup:" ++ id ++ ":" ++ boolText disable)
  | .start | .stop => none

/-- The text about a call that has ended. -/
def endText? (id : String) (call : Call) : Ending → Option String
  | .succeeded =>
    match call with
    | .start => some ("start:" ++ id)
    | .stop => some ("stop:" ++ id)
    | _ => none
  | .failed _ => some (call.name ++ "-failed:" ++ id)
  | .brokeDown _ => some (call.name ++ "-panic:" ++ id)

/-- The id and the text of the line about something that happened, if there is one. -/
def Host.lineOf? (h : Host) : Happening → Option (String × String)
  | .constructed id version invocation journaled =>
    let args := (Json.array (invocation.arguments.map DependencyValue.toJson)).compact
    if journaled then
      some (id, "construct:" ++ id ++ ":" ++ version ++ ":" ++ natText invocation.position ++
        ":" ++ args)
    else none
  | .called number call => do
    let i ← h.instance? number
    if i.conduct.journals call then (callText? i.id call).map (i.id, ·) else none
  | .ended number call ending => do
    let i ← h.instance? number
    if i.conduct.journals call then (endText? i.id call ending).map (i.id, ·) else none
  | .switched number enabled => do
    let i ← h.instance? number
    if i.conduct.journaled then
      some (i.id, "set-enabled:" ++ i.id ++ ":" ++ boolText enabled)
    else none
  | .gatewayCalled family id call =>
    some (id, "gateway-" ++ call.name ++ ":" ++ family.name ++ ":" ++ id)
  | .hookRun hook id phase => some (id, "hook:" ++ hook ++ ":" ++ id ++ ":" ++ phase.name)
  | .registered .. | .unregistered .. => none

/-- The journal of a host. -/
def Host.journal (h : Host) : List JournalLine :=
  h.history.reverse.filterMap fun (time, what) =>
    (h.lineOf? what).map fun (id, text) => ⟨time, id, text⟩

end ExtensionHost
