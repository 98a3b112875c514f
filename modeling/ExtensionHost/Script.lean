import ExtensionHost.Cleanup
import ExtensionHost.Document
import ExtensionHost.Extension.Factory
import ExtensionHost.Value.Codec

/-!
# Scripts

Extensions, gateways and hooks whose conduct is written down as data, for
rehearsing what a host does with them.
-/

namespace ExtensionHost

/-! ## Fields with defaults -/

/-- The text of a field, if it is there. -/
def Json.textOf? (v : Json) (name : String) : Option String :=
  match v.field? name with
  | some (.text s) => some s
  | _ => none

/-- The text of a field, or the empty text. -/
def Json.textOf (v : Json) (name : String) : String :=
  (v.textOf? name).getD ""

/-- The natural number of a field, if it is there. -/
def Json.natOf? (v : Json) (name : String) : Option Nat :=
  match v.field? name with
  | some (.int n) => some n.toNat
  | _ => none

/-- The natural number of a field, or zero. -/
def Json.natOf (v : Json) (name : String) : Nat :=
  (v.natOf? name).getD 0

/-- The truth value of a field, or the one given. -/
def Json.boolOr (v : Json) (name : String) (fallback : Bool) : Bool :=
  match v.field? name with
  | some (.bool b) => b
  | _ => fallback

/-- The items of a field, or none. -/
def Json.itemsOf (v : Json) (name : String) : List Json :=
  match v.field? name with
  | some (.array items) => items
  | _ => []

/-- The chain of failures in a list of texts. -/
def ErrorChain.ofJson (v : Json) : ErrorChain :=
  match Document.texts? v with
  | some (outer :: causes) => ⟨outer, causes⟩
  | _ => ⟨"", []⟩

/-- The chain of failures in a field, if the field is there. -/
def Json.chain? (v : Json) (name : String) : Option ErrorChain :=
  match v.field? name with
  | some .null | none => none
  | some chain => some (.ofJson chain)

/-! ## Phases -/

/-- How the script lets a call end. A failure may be limited to the first calls. -/
inductive PhaseEnd where
  | succeeds
  | fails (e : ErrorChain) (times : Option Nat)
  | breaksDown
  deriving DecidableEq, Repr

/-- How the script answers a kind of call. -/
structure Phase where
  name : String
  delayMs : Nat
  ending : PhaseEnd
  deriving DecidableEq, Repr

/-- The phase with the name in the script of an instance. -/
def Phase.read (v : Json) (name : String) : Phase :=
  let ending :=
    if v.textOf "panic" == name then PhaseEnd.breaksDown
    else match v.field? (name ++ "_fail") with
      | some (.object members) =>
        let failure := Json.object members
        .fails ((failure.chain? "chain").getD ⟨"", []⟩) (failure.natOf? "times")
      | _ => .succeeds
  ⟨name, v.natOf (name ++ "_delay"), ending⟩

/-- The answer to a call with so many calls of its kind before it. Only starts and
stops are counted: other calls fail always, or never where the limit is zero. -/
def Phase.respond (p : Phase) (counted : Bool) (earlier : Nat) : Response :=
  match p.ending with
  | .succeeds => ⟨p.delayMs, .succeeded⟩
  | .breaksDown => ⟨p.delayMs, .brokeDown ("scripted panic in " ++ p.name)⟩
  | .fails e times =>
    let fails := match times with
      | none => true
      | some limit => if counted then earlier < limit else limit != 0
    ⟨p.delayMs, if fails then .failed e else .succeeded⟩

/-! ## Instances -/

/-- How many of the requests, given by how long each goes on after the instance
was disabled, are still there. -/
def remainingRequests (durations : List Nat) : Option Nat → Nat
  | none => durations.length
  | some elapsed => (durations.filter (elapsed < ·)).length

/-- The conduct that a script describes. -/
def Conduct.ofScript (v : Json) : Conduct :=
  let hooks := (v.textOf? "hooks").getD "scripted"
  let silent := hooks == "default"
  let durations := (v.itemsOf "requests").filterMap fun item => match item with
    | .int n => some n.toNat
    | _ => none
  { respond := fun call calls =>
      let earlier := calls.count call
      match call with
      | .start => (Phase.read v "start").respond true earlier
      | .stop => (Phase.read v "stop").respond true earlier
      | .prepare => if silent then .immediate else (Phase.read v "prepare").respond false earlier
      | .closeConnections =>
        if silent then .immediate else (Phase.read v "close").respond false earlier
      | .cleanup _ => (Phase.read v "cleanup").respond false earlier
    hasStatistics := v.boolOr "stats" true
    hasHooks := hooks != "none"
    closesConnections := !silent
    load := remainingRequests durations
    journaled := true
    silentHooks := silent }

/-- The instance that a script describes. -/
def Blueprint.ofScript (v : Json) (d : Descriptor) : Blueprint :=
  let stuck := v.natOf "stuck"
  { descriptor := d
    exposesContext := v.boolOr "context" true
    conduct := .ofScript v
    counters := ⟨stuck, stuck, v.natOf "connections"⟩ }

/-! ## Factories -/

/-- The parameter types in a field. -/
def paramsOf (v : Json) (name : String) : List ParamType :=
  (v.itemsOf name).filterMap ParamType.ofJson?

/-- A constructor that a script describes: it fails, or makes an instance with the
conduct of the factory. -/
def Constructor.ofScript (behavior : Json) (reportId : Option String) (v : Json) : Constructor :=
  { params := paramsOf v "params"
    build := fun d _ =>
      match v.chain? "fail" with
      | some e => .error e
      | none => .ok (.ofScript behavior { d with id := reportId.getD d.id }) }

/-- The factory that a script describes. -/
def Factory.ofScript (v : Json) : Factory :=
  let behavior := (v.field? "behavior").getD (.object [])
  { entryPoint := v.textOf "entry_point"
    constructors := (v.itemsOf "constructors").map (.ofScript behavior (v.textOf? "report_id"))
    journaled := true }

/-! ## Gateways and hooks -/

/-- The answer of a call that may fail. -/
def Response.ofFailure : Option ErrorChain → Response
  | some e => ⟨0, .failed e⟩
  | none => .immediate

/-- The gateway that a script describes, with its family. -/
def Gateway.ofScript? (v : Json) : Option (ProtocolFamily × Gateway) := do
  let family ← ProtocolFamily.ofName? (v.textOf "family")
  let respond := fun (_ : String) (call : GatewayCall) =>
    match call with
    | .stopAccepting => Response.ofFailure (v.chain? "stop_fail")
    | .closeConnections => Response.ofFailure (v.chain? "close_fail")
  return (family, { respond := respond, connections := fun _ => v.natOf "connections" })

/-- The cleanup hook that a script describes. -/
def CleanupHook.ofScript (v : Json) : CleanupHook :=
  { name := v.textOf "name"
    respond := fun _ _ => .ofFailure (v.chain? "fail") }

end ExtensionHost
