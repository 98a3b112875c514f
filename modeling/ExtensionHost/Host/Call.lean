import ExtensionHost.Host.Basic

/-!
# Calls of foreign code

How the host calls instances, gateways and cleanup hooks, and starts and stops
what is registered. Foreign code takes its time; meanwhile other tasks run.
-/

namespace ExtensionHost

/-! ## Answers -/

/-- Notices of a program. -/
def noteAll (notices : List Notice) : HostProgram Unit :=
  .change (·.notice notices)

/-- A notice of a program. -/
def note (n : Notice) : HostProgram Unit :=
  noteAll [n]

/-- How a call ends for the caller. -/
def Ending.result : Ending → HostProgram (Except ErrorChain Unit)
  | .succeeded => .done (.ok ())
  | .failed e => .done (.error e)
  | .brokeDown message => .breakDown message

/-- Waits for the answer to a call. -/
def Response.wait (r : Response) : HostProgram (Except ErrorChain Unit) := do
  Program.sleep r.delayMs
  r.ending.result

/-- Notes a failure and goes on. -/
def noteFailure {ε : Type} (notice : ε → Notice) : Except ε Unit → HostProgram Unit
  | .ok _ => .done ()
  | .error e => note (notice e)

/-! ## Instances -/

/-- A call on an instance begins, and the answer is known. -/
def Host.beginCall (h : Host) (now number : Nat) (call : Call) : Response × Host :=
  match h.instance? number with
  | some i =>
    (i.response call, (h.modifyInstance number (·.callBegun call)).happen now (.called number call))
  | none => (.immediate, h)

/-- A call on an instance ends. -/
def Host.endCall (h : Host) (now number : Nat) (call : Call) (ending : Ending) : Host :=
  (h.modifyInstance number (·.callEnded call ending)).happen now (.ended number call ending)

/-- Calls an instance. -/
def callInstance (number : Nat) (call : Call) : HostProgram (Except ErrorChain Unit) :=
  -- What it will answer depends on what it is like when it is called, not when it answers.
  .act (fun now h => h.beginCall now number call) fun response => do
    Program.sleep response.delayMs
    .changeAt fun now h => h.endCall now number call response.ending
    response.ending.result

/-- Enables or disables an instance at a time. -/
def Host.switch (h : Host) (now number : Nat) (enabled : Bool) : Host :=
  (h.modifyInstance number (·.setEnabled now enabled)).happen now (.switched number enabled)

/-! ## Gateways and hooks -/

/-- The gateway that carries the traffic of an extension, with its family. -/
def Host.gatewayFor? (h : Host) (id : String) : Option (ProtocolFamily × Gateway) := do
  let family ← ProtocolFamily.ofId? id
  let gateway ← h.gateways.lookup family
  return (family, gateway)

/-- The host with a gateway, which takes the place of the one of its family. -/
def Host.addGateway (h : Host) (family : ProtocolFamily) (g : Gateway) : Host :=
  let replaced := (h.gateways.lookup family).isSome
  { h with gateways := (family, g) :: h.gateways.filter (·.1 != family) }.notice
    (if replaced then [.gatewayReplaced family] else [])

/-- Calls a gateway. -/
def callGateway (family : ProtocolFamily) (g : Gateway) (id : String) (call : GatewayCall) :
    HostProgram (Except ErrorChain Unit) := do
  Program.changeAt fun now h => h.happen now (.gatewayCalled family id call)
  (g.respond id call).wait

/-- Runs a cleanup hook. A failure of it is noted. -/
def runHook (id : String) (phase : CleanupPhase) (hook : CleanupHook) : HostProgram Unit := do
  Program.changeAt fun now h => h.happen now (.hookRun hook.name id phase)
  let result ← (hook.respond id phase).wait
  noteFailure (.cleanupHookFailed id hook.name phase) result

/-- Runs every cleanup hook, in order. -/
def runHooks (id : String) (phase : CleanupPhase) : HostProgram Unit := do
  let hooks ← Program.ask (·.hooks)
  Program.forEach (runHook id phase) hooks

/-! ## Registered instances -/

/-- Registers an instance. -/
def register (id : String) (number : Nat) : HostProgram (Except LifecycleError Unit) :=
  .act (fun now h => h.register now id number) .done

/-- Takes an instance out of the registry. -/
def unregister (id : String) : HostProgram (Option Nat) :=
  .act (fun now h => h.unregister now id) .done

/-- Calls the instance registered under an id. -/
def callRegistered (id : String) (call : Call) (failed : String → LifecycleError) :
    HostProgram (Except LifecycleError Unit) := do
  match ← Program.ask (·.registry.get? id) with
  | none => return .error (.notFound id)
  | some number =>
    match ← callInstance number call with
    | .ok _ => return .ok ()
    | .error e => return .error (failed e.full)

/-- Starts the instance registered under an id. -/
def startRegistered (id : String) : HostProgram (Except LifecycleError Unit) :=
  callRegistered id .start (.startFailed id)

/-- Stops the instance registered under an id. -/
def stopRegistered (id : String) : HostProgram (Except LifecycleError Unit) :=
  callRegistered id .stop (.stopFailed id)

/-! ## Tasks -/

/-- Sets off a job for each element of a list, in order, and gives the numbers of
the tasks. -/
def spawnEach {α : Type} (own : Bool) (job : α → Job) : List α → HostProgram (List (Nat × α))
  | [] => .done []
  | a :: rest => .spawn own (job a) fun number =>
    (spawnEach own job rest).bind fun tasks => .done ((number, a) :: tasks)

/-- Waits until a task has ended, or until a deadline. -/
def awaitTask (number : Nat) (deadline : Option Nat) : HostProgram (Option TaskOutcome) :=
  .wait (·.hasEnded number) deadline (Program.ask (·.outcome? number))

/-- The lifecycle error that a task ended with, if it did. -/
def TaskOutcome.lifecycleError? : TaskOutcome → Option LifecycleError
  | .ok (.error (.lifecycle e)) => some e
  | _ => none

/-- Stops all registered instances at once, and gives the failures in the order of
the ids. -/
def stopAll : HostProgram (List LifecycleError) := do
  let ids ← Program.ask (·.registry.ids)
  let tasks ← spawnEach true Job.stop ids
  Program.wait (fun h => tasks.all fun task => h.hasEnded task.1) none (.done ())
  let failures ← Program.ask fun h =>
    tasks.filterMap fun task => (h.outcome? task.1).bind TaskOutcome.lifecycleError?
  noteAll (failures.map .stopFailed)
  return failures

end ExtensionHost
