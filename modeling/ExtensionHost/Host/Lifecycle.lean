import ExtensionHost.Host.Drain
import ExtensionHost.Version

/-!
# Lifecycle

How a host enables, disables, updates and removes an extension. An update drains
the old version before it builds the new one, and goes back to the old one when
the new one cannot be built.
-/

namespace ExtensionHost

/-! ## Building instances -/

/-- The description that a constructor is given: where it names no folder, that of the
context. -/
def Descriptor.inContext (d : Descriptor) (context : Context) : Descriptor :=
  { d with folder := if d.folder.isEmpty then context.folder else d.folder }

@[simp] theorem Descriptor.inContext_id {d : Descriptor} {context : Context} :
    (d.inContext context).id = d.id := rfl

@[simp] theorem Descriptor.inContext_version {d : Descriptor} {context : Context} :
    (d.inContext context).version = d.version := rfl

theorem Descriptor.inContext_of_folder {d : Descriptor} {context : Context}
    (hd : d.folder.isEmpty = false) : d.inContext context = d := by
  simp [inContext, hd]

/-- Takes note of the constructors that were invoked for a description. -/
def Host.noteInvocations (h : Host) (now : Nat) (d : Descriptor) (journaled : Bool)
    (invoked : List Invocation) : Host :=
  invoked.foldl (fun h invocation =>
    h.happen now (.constructed d.id d.version invocation journaled)) h

/-- Constructs an instance from a factory, and keeps it whatever id it reports. Where a
constructor breaks down, so does all that led to it. -/
def Host.construct (h : Host) (now : Nat) (f : Factory) (context : Context) (d : Descriptor)
    (args : List DependencyValue) : Except String (Except HostError Nat) × Host :=
  let made := instantiate h.settings.policy.syntheticFallback f d args (h.invocations d.id)
  let h := (h.noteInvocations now d f.journaled made.invoked).notice made.notices
  match made.brokeDown, made.outcome with
  | some message, _ => (.error message, h)
  | none, .error e => (.ok (.error (.instantiation e)), h)
  | none, .ok blueprint =>
    (.ok (.ok h.nextInstance), h.addInstance (.ofBlueprint blueprint (some context)))

/-- Constructs an instance in a context. -/
def Host.constructIn (h : Host) (now : Nat) (context : Context) (d : Descriptor) :
    Except String (Except HostError Nat) × Host :=
  match context.resolve? h.factories d.entryPoint with
  | none => (.ok (.error (.load (.entryPointNotFound d.id d.entryPoint))), h)
  | some f =>
    let h := h.notice (h.dependencies.notices d.id)
    h.construct now f context (d.inContext context) (h.dependencies.arguments d.id)

/-- The instance with a number, if it reports the id. -/
def Host.checkIdentity (h : Host) (id : String) (number : Nat) : Except HostError Nat :=
  match h.instance? number with
  | some i =>
    if i.id = id then .ok number else .error (.instantiation (.identityMismatch id i.id))
  | none => .ok number

/-- Builds a new instance for a description: its context, and the instance in it,
which has to report the id of the description. -/
def Host.build (h : Host) (now : Nat) (d : Descriptor) :
    Except String (Except HostError Nat) × Host :=
  if !d.hasEntryPoint then (.ok (.error (.instantiation (.missingEntryPoint d.id))), h)
  else
    match h.settings.layout.load h.files h.libraries d with
    | (.error e, notices) => (.ok (.error (.load e)), h.notice notices)
    | (.ok context, notices) =>
      match (h.notice notices).constructIn now context d with
      -- Only an instance that is there can be asked for its id.
      | (.ok (.ok number), h) => (.ok (h.checkIdentity d.id number), h)
      | (unmade, h) => (unmade, h)

/-- Builds a new instance. -/
def build (d : Descriptor) : HostProgram (Except HostError Nat) :=
  .act (fun now h => h.build now d) .ofOutcome

/-! ## The four changes -/

/-- A lifecycle error as an error of the host. -/
def Except.asHostError {α : Type} : Except LifecycleError α → Except HostError α
  | .ok a => .ok a
  | .error e => .error (.lifecycle e)

/-- Registers an instance and starts what is registered then. -/
def registerAndStart (id : String) (number : Nat) : HostProgram (Except LifecycleError Unit) := do
  match ← register id number with
  | .error e => return .error e
  | .ok _ => startRegistered id

/-- Builds, registers and starts an instance. Without an entry point there is
nothing to do. -/
def enable (d : Descriptor) : HostProgram (Except HostError Unit) :=
  if !d.hasEntryPoint then .done (.ok ())
  else do
    match ← build d with
    | .error e => return .error e
    | .ok number => return Except.asHostError (← registerAndStart d.id number)

/-- Drains the registered instance, which stays registered. -/
def disable (d : Descriptor) : HostProgram (Except HostError Unit) := do
  match ← Program.ask (·.registry.get? d.id) with
  | none => return .ok ()
  | some number =>
    let timeoutMs ← Program.ask (·.settings.policy.drainTimeoutMs)
    return Except.asHostError (← drain number timeoutMs)

/-- Goes back to a description after its successor could not be built. -/
def rollBack (id : String) (old : Descriptor) (e : HostError) :
    HostProgram (Except HostError Unit) := do
  note (.updateRolledBack id e)
  -- Whether it can be enabled again or not, it is the update that has failed.
  let result ← enable old
  noteFailure (.rollbackFailed id) result
  runHooks id .updateFailed
  return .error (.lifecycle (.updateFailed id e.message))

/-- Puts the new version of an extension in the place of the one that was taken
out. -/
def replaceWith (d old : Descriptor) : HostProgram (Except HostError Unit) := do
  match ← build d with
  | .error e => rollBack d.id old e
  | .ok number =>
    match ← registerAndStart d.id number with
    | .ok _ =>
      runHooks d.id .updateSucceeded
      return .ok ()
    | .error e =>
      runHooks d.id .updateFailed
      return .error (.lifecycle e)

/-- What is noticed about the two versions of an update. -/
def versionNotices (id fromVersion toVersion : String) : List Notice :=
  match checkVersionCompatibility id fromVersion toVersion with
  | .ok _ => []
  | .error e => [.versionIgnored e]

/-- Updates a registered instance. -/
def updateRegistered (d : Descriptor) (number : Nat) (old : Instance) :
    HostProgram (Except HostError Unit) := do
  noteAll (versionNotices d.id old.descriptor.version d.version)
  let policy ← Program.ask (·.settings.policy)
  match ← drain number policy.drainTimeoutMs with
  | .error e =>
    runHooks d.id .updateFailed
    return .error (.lifecycle (.updateFailed d.id e.message))
  | .ok _ =>
    -- By the id: others may have registered another instance during the drain.
    let _ ← unregister d.id
    let cleaned ← callInstance number (.cleanup false)
    noteFailure (.previousCleanupFailed d.id) cleaned
    Program.sleep policy.settleDelayMs
    replaceWith d old.descriptor

/-- Updates an extension, or enables it where it is not registered. -/
def update (d : Descriptor) : HostProgram (Except HostError Unit) := do
  match ← Program.ask fun h => (h.registry.get? d.id).bind fun n => (h.instance? n).map (n, ·) with
  | none => enable d
  | some (number, old) => updateRegistered d number old

/-- Removes an extension. It goes even if it cannot be drained. -/
def remove (d : Descriptor) : HostProgram (Except HostError Unit) := do
  match ← Program.ask (·.registry.get? d.id) with
  | none => return .ok ()
  | some number =>
    let timeoutMs ← Program.ask (·.settings.policy.drainTimeoutMs)
    let drained ← drain number timeoutMs
    noteFailure (.removalForced d.id) drained
    -- By the id here, too.
    let _ ← unregister d.id
    let cleaned ← callInstance number (.cleanup true)
    noteFailure (.cleanupFailed d.id) cleaned
    runHooks d.id .removed
    return .ok ()

/-! ## Events -/

/-- Makes the change of an event. -/
def handle (e : Event) : HostProgram (Except HostError Unit) :=
  match e.change with
  | .enable => enable e.descriptor
  | .disable => disable e.descriptor
  | .update => update e.descriptor
  | .remove => remove e.descriptor

/-- Makes the changes of events, one after another. -/
def handleEach : List Event → BatchResult → HostProgram BatchResult
  | [], r => .done r
  | e :: rest, r => do
    let result ← handle e
    noteFailure (.eventFailed e.id e.change) result
    handleEach rest (r.record e.id HostError.message result)

/-- Makes the changes of events, and tells which succeeded. -/
def handleBatch (events : List Event) : HostProgram BatchResult :=
  handleEach events .empty

end ExtensionHost
