import ExtensionHost.Host.Lifecycle

/-!
# Operations

Changes of many extensions on request. Each change is a task with a deadline; one
that misses it counts as failed, and goes on by itself.
-/

namespace ExtensionHost

/-! ## Events of a request -/

/-- The description of an extension on disk, or one without a manifest. -/
def Host.describe (h : Host) (id : String) : Descriptor :=
  match h.settings.layout.descriptorOf h.files id with
  | .ok d => d
  | .error _ => .minimal id h.settings.layout.root

/-- The events of a change for some ids, each of them once. -/
def Host.eventsOf (h : Host) (change : Change) (ids : List String) : List Event :=
  (keepFirst ids).map fun id => .of change (h.describe id)

/-- The first description of each id in a list. -/
def firstOfEachId : List Descriptor → List Descriptor
  | [] => []
  | d :: ds => d :: (firstOfEachId ds).filter (fun other => decide (other.id ≠ d.id))

/-! ## Running a request -/

/-- What a task with a deadline came to. -/
def outcomeInTime (e : Event) (timeoutMs : Nat) : Option TaskOutcome → Except HostError Unit
  | some (.ok result) => result
  | some (.error message) => .error (.lifecycle (taskFailure e.id message))
  | none => .error (.lifecycle (.timeout e.id e.change.name timeoutMs))

/-- Makes the change of an event in a task with a deadline. -/
def handleInTime (e : Event) (timeoutMs : Nat) : HostProgram (Except HostError Unit) := do
  let start ← Program.now
  -- Past the deadline it is no longer waited for, and goes on all the same.
  let outcome ← Program.spawn false (.handle e) fun number =>
    awaitTask number (some (start + timeoutMs))
  return outcomeInTime e timeoutMs outcome

/-- Makes the changes of events in tasks with deadlines, one after another. -/
def operateEach (timeoutMs : Nat) : List Event → BatchResult → HostProgram BatchResult
  | [], r => .done r
  | e :: rest, r => do
    let result ← handleInTime e timeoutMs
    noteFailure (.operationFailed e.id e.change) result
    operateEach timeoutMs rest (r.record e.id HostError.message result)

/-- Makes a change of the extensions with the given ids. -/
def operate (change : Change) (ids : List String) (timeoutMs : Nat) : HostProgram BatchResult := do
  let events ← Program.ask (·.eventsOf change ids)
  operateEach timeoutMs events .empty

/-- Makes a change of described extensions. -/
def apply (change : Change) (ds : List Descriptor) (timeoutMs : Nat) : HostProgram BatchResult :=
  operateEach timeoutMs ((firstOfEachId ds).map (.of change)) .empty

/-! ## Status -/

/-- What is known about a registered extension. -/
structure ExtensionStatus where
  id : String
  name : String
  version : String
  author : Option String
  priority : Int
  enabled : Bool
  started : Bool
  fingerprint : Option String
  shutdown : ShutdownStatus
  deriving DecidableEq, Repr

/-- The status as JSON. -/
def ExtensionStatus.toJson (s : ExtensionStatus) : Json :=
  .object [
    ("id", .text s.id),
    ("name", .text s.name),
    ("version", .text s.version),
    ("author", .optText s.author),
    ("priority", .int s.priority),
    ("enabled", .bool s.enabled),
    ("started", .bool s.started),
    ("fingerprint", .optText s.fingerprint),
    ("shutdown", s.shutdown.toJson)]

/-- The status of an instance at a time. -/
def Host.statusOf (h : Host) (now : Nat) (i : Instance) : ExtensionStatus :=
  { id := i.id
    name := i.descriptor.displayName
    version := i.descriptor.version
    author := i.descriptor.author
    priority := i.descriptor.priority
    enabled := i.enabled
    started := i.started
    fingerprint := (h.registry.context? i.id).bind (·.fingerprint)
    shutdown := h.shutdownStatus now i }

/-- The status of every registered extension, in the order of the ids. -/
def Host.status (h : Host) (now : Nat) : List ExtensionStatus :=
  (h.registered.map fun (_, i) => h.statusOf now i).mergeSort fun a b => !(b.id < a.id)

end ExtensionHost
