import ExtensionHost.Host.Call

/-!
# Draining

An instance is drained before it goes: it is told to prepare, disabled, kept from
new traffic, given time to answer what is pending, told to close its connections,
and stopped. Only the stop can make a drain fail; it is tried a second time.
-/

namespace ExtensionHost

/-! ## Pending requests -/

/-- The pending requests of an instance at a time. -/
def Host.pendingOf (h : Host) (now number : Nat) : Nat :=
  match h.instance? number with
  | some i => i.pending now
  | none => 0

/-- What a look at the pending requests says to do. -/
inductive PendingLook where
  | answered
  | late (pending : Nat)
  | again (time : Nat)
  deriving DecidableEq, Repr

/-- A look at the number of pending requests at a time, before a deadline. The next
look is one interval later, but not after the deadline. -/
def lookAtPending (interval deadline now pending : Nat) : PendingLook :=
  if pending = 0 then .answered
  else if deadline ≤ now then .late pending
  else .again (now + min (max interval 1) (deadline - now))

/-- Looks at the pending requests until there are none or the deadline has come,
and gives the number of those that are left. -/
def waitForPending (number interval deadline : Nat) : Nat → HostProgram Nat
  | 0 => .done 0
  | looks + 1 =>
    -- Looks are a millisecond apart at least, so as many as there are until the deadline
    -- and one more are enough.
    .act (fun now h => (lookAtPending interval deadline now (h.pendingOf now number), h))
      fun look => match look with
      | .answered => .done 0
      | .late pending => .done pending
      | .again time =>
        (Program.sleepUntil time).bind fun _ => waitForPending number interval deadline looks

/-- Gives the pending requests of an instance time to be answered. -/
def drainPending (id : String) (number timeoutMs : Nat) : HostProgram Unit := do
  let interval ← Program.ask (·.settings.policy.drainPollIntervalMs)
  let start ← Program.now
  let left ← waitForPending number interval (start + timeoutMs) (timeoutMs + 1)
  if left = 0 then return () else note (.pendingAbandoned (.timeout id timeoutMs left))

/-! ## One instance -/

/-- Calls a shutdown hook of an instance that has hooks. A failure is noted. -/
def callShutdownHook (i : Instance) (number : Nat) (call : Call) (name : String) :
    HostProgram Unit :=
  if i.conduct.hasHooks then do
    let result ← callInstance number call
    noteFailure (fun e => .shutdownHookFailed (.hookFailed i.id name e.full)) result
  else .done ()

/-- Calls the gateway of a family, if there is one. A failure is noted. -/
def callGatewayIfAny (id : String) (gateway : Option (ProtocolFamily × Gateway))
    (call : GatewayCall) (notice : ErrorChain → Notice) : HostProgram Unit :=
  match gateway with
  | some (family, g) => do
    let result ← callGateway family g id call
    noteFailure notice result
  | none => .done ()

/-- Stops the instance registered under an id, and if that fails the instance
given. -/
def stopWithRetry (id : String) (number : Nat) : HostProgram (Except LifecycleError Unit) := do
  match ← stopRegistered id with
  | .ok _ => return .ok ()
  | .error first =>
    note (.stopForced id first)
    -- The instance in hand, whatever was registered.
    match ← callInstance number .stop with
    | .ok _ => return .ok ()
    | .error e => return .error (.stopFailed id ("forced stop failed: " ++ e.full))

/-- Drains an instance. -/
def drainInstance (i : Instance) (number timeoutMs : Nat) :
    HostProgram (Except LifecycleError Unit) := do
  callShutdownHook i number .prepare "prepare_for_shutdown"
  Program.changeAt fun now h => h.switch now number false
  let gateway ← Program.ask (·.gatewayFor? i.id)
  callGatewayIfAny i.id gateway .stopAccepting (.gatewayStopFailed i.id)
  if i.conduct.hasStatistics then drainPending i.id number timeoutMs else .done ()
  callShutdownHook i number .closeConnections "close_all_connections"
  callGatewayIfAny i.id gateway .closeConnections (.gatewayCloseFailed i.id)
  stopWithRetry i.id number

/-- Drains the instance with a number. -/
def drain (number timeoutMs : Nat) : HostProgram (Except LifecycleError Unit) := do
  match ← Program.ask (·.instance? number) with
  | some i => drainInstance i number timeoutMs
  | none => return .ok ()

/-! ## All instances -/

/-- How a drain of all registered instances went. -/
structure DrainReport where
  issued : List String
  completed : List String
  failed : List (String × String)
  unfinished : List String
  timedOut : Bool
  deriving DecidableEq, Repr

/-- The report before any drain has ended. -/
def DrainReport.start (issued : List String) : DrainReport :=
  ⟨issued, [], [], [], false⟩

/-- Whether every drain succeeded in time. -/
def DrainReport.isClean (r : DrainReport) : Bool :=
  r.failed.isEmpty && !r.timedOut

/-- The report as JSON. -/
def DrainReport.toJson (r : DrainReport) : Json :=
  .object [
    ("issued", .texts r.issued),
    ("completed", .texts r.completed),
    ("failed", .object (r.failed.map fun (id, reason) => (id, .text reason))),
    ("unfinished", .texts r.unfinished),
    ("timed_out", .bool r.timedOut)]

/-- Whether one instance is drained before another one: by descending priority, and
by id where the priorities are equal. -/
def drainsBefore (a b : Nat × Instance) : Bool :=
  if a.2.descriptor.priority = b.2.descriptor.priority then !(b.2.id < a.2.id)
  else b.2.descriptor.priority < a.2.descriptor.priority

/-- The registered instances in the order they are drained. -/
def Host.drainOrder (h : Host) : List (Nat × Instance) :=
  h.registered.mergeSort drainsBefore

/-- The failure of a task that broke down. -/
def taskFailure (id message : String) : LifecycleError :=
  .taskFailed id ("task # panicked with message " ++ quoted message)

/-- The report after a drain has ended, and what is noticed. -/
def DrainReport.record (r : DrainReport) (id : String) : TaskOutcome → DrainReport × List Notice
  | .ok (.ok _) => ({ r with completed := r.completed ++ [id] }, [])
  | .ok (.error (.lifecycle e)) =>
    ({ r with failed := insertEntry id e.message r.failed }, [.drainFailed id e])
  | .ok (.error e) => ({ r with failed := insertEntry id e.message r.failed }, [])
  | .error message =>
    let e := taskFailure id message
    ({ r with failed := insertEntry id e.message r.failed }, [.drainTaskFailed e])

/-- The report after the deadline: the drains that have not ended are unfinished. -/
def DrainReport.abandon (r : DrainReport) : DrainReport :=
  { r with
    timedOut := true
    unfinished := r.issued.filter fun id =>
      !r.completed.contains id && !(r.failed.any (·.1 == id)) }

/-- Of some tasks the one that ended first, and how. -/
def Host.firstEnded? (h : Host) (tasks : List (Nat × String)) :
    Option (Nat × String × TaskOutcome) :=
  h.outcomes.reverse.findSome? fun (number, outcome) =>
    (tasks.lookup number).map fun id => (number, id, outcome)

/-- Waits for drains until all have ended or the deadline has come. -/
def collectDrains (deadline timeoutMs : Nat) : Nat → List (Nat × String) → DrainReport →
    HostProgram DrainReport
  | 0, _, r => .done r
  | left + 1, tasks, r =>
    .wait (fun h => (h.firstEnded? tasks).isSome) (some deadline) <|
      (Program.ask (·.firstEnded? tasks)).bind fun ended =>
        match ended with
        | some (number, id, outcome) =>
          let (r, notices) := r.record id outcome
          (noteAll notices).bind fun _ =>
            collectDrains deadline timeoutMs left (tasks.filter (·.1 != number)) r
        | none =>
          let r := r.abandon
          (note (.drainsAbandoned (.allTimeout timeoutMs) r.unfinished)).bind fun _ => .done r

/-- Drains all registered instances at once. -/
def drainAll (timeoutMs : Nat) : HostProgram DrainReport := do
  let order ← Program.ask (·.drainOrder)
  let start ← Program.now
  let tasks ← spawnEach false (fun (number, _) => Job.drain number timeoutMs) order
  let tasks := tasks.map fun (task, _, i) => (task, i.id)
  collectDrains (start + timeoutMs) timeoutMs tasks.length tasks (.start (tasks.map (·.2)))

/-! ## Status -/

/-- How far an instance is from a safe stop. -/
structure ShutdownStatus where
  extensionId : String
  canShutdownSafely : Bool
  activeRequests : Nat
  activeConnections : Nat
  deriving DecidableEq, Repr

/-- The status as JSON. -/
def ShutdownStatus.toJson (s : ShutdownStatus) : Json :=
  .object [
    ("extension_id", .text s.extensionId),
    ("can_shutdown_safely", .bool s.canShutdownSafely),
    ("active_requests", .nat s.activeRequests),
    ("active_connections", .nat s.activeConnections)]

/-- The status of an instance at a time. Connections may be known to the instance
or to the gateway; the larger number counts. -/
def Host.shutdownStatus (h : Host) (now : Nat) (i : Instance) : ShutdownStatus :=
  let carried := match h.gatewayFor? i.id with
    | some (_, g) => g.connections i.id
    | none => 0
  if i.conduct.hasStatistics then
    { extensionId := i.id
      canShutdownSafely := i.pending now == 0 && i.active now == 0
      activeRequests := i.active now
      activeConnections := max i.counters.connections carried }
  else
    { extensionId := i.id
      canShutdownSafely := true
      activeRequests := 0
      activeConnections := carried }

end ExtensionHost
