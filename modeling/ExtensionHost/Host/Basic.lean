import ExtensionHost.Dependencies
import ExtensionHost.Extension.Builtin
import ExtensionHost.Host.Registry
import ExtensionHost.Instantiation
import ExtensionHost.Loading
import ExtensionHost.Schedule

/-!
# The state of a host

Everything that the tasks of a host share: what it was set up with, the instances
made so far and which of them are registered, and the history of what happened.
-/

namespace ExtensionHost

/-! ## History -/

/-- Something that happened between the host and foreign code, or in the registry.
Instances are given by their numbers. -/
inductive Happening where
  | constructed (id version : String) (invocation : Invocation) (journaled : Bool)
  | registered (id : String) (number : Nat)
  | unregistered (id : String) (number : Nat)
  | called (number : Nat) (call : Call)
  | ended (number : Nat) (call : Call) (ending : Ending)
  | switched (number : Nat) (enabled : Bool)
  | gatewayCalled (family : ProtocolFamily) (id : String) (call : GatewayCall)
  | hookRun (hook id : String) (phase : CleanupPhase)
  deriving DecidableEq, Repr

/-- The work of a task. -/
inductive Job where
  | handle (event : Event)
  | drain (number timeoutMs : Nat)
  | stop (id : String)
  | watch (nextTick : Option Nat)
  deriving DecidableEq, Repr

/-- How a task ended: what its job came to, or the message it broke down with. -/
abbrev TaskOutcome := Except String (Except HostError Unit)

/-- The watch over the folders: whether it is meant to run, whether its task has
been told to end, and the number of the task. -/
structure Watch where
  running : Bool
  told : Bool
  task : Option Nat
  deriving DecidableEq, Repr

/-! ## The host -/

/-- The state of a host. Instances stand in the order they were made; the history,
the notices and the ends of tasks start with the last one. Where the watch has been
told to end just when a tick is due, either of the two may win; the ties tell for which
of the next such times it hears what it was told. -/
structure Host where
  settings : Settings
  files : FileTree
  libraries : Path → Option Library
  factories : FactoryTable
  dependencies : DependencyTable
  hooks : List CleanupHook
  gateways : List (ProtocolFamily × Gateway)
  instances : List Instance
  registry : Registry
  watch : Watch
  ties : Nat → Bool
  history : List (Nat × Happening)
  notices : List Notice
  outcomes : List (Nat × TaskOutcome)

/-- A host with settings, on a file tree. -/
def Host.new (settings : Settings) (files : FileTree) (libraries : Path → Option Library) : Host :=
  { settings := settings
    files := files
    libraries := libraries
    factories := .empty
    dependencies := []
    hooks := []
    gateways := []
    instances := []
    registry := .empty
    watch := ⟨false, false, none⟩
    ties := fun _ => true
    history := []
    notices := []
    outcomes := [] }

/-- A program of a host. -/
abbrev HostProgram := Program Host Job

/-! ## Notes -/

/-- Takes note of what has been noticed, in order. -/
def Host.notice (h : Host) (notices : List Notice) : Host :=
  { h with notices := notices.reverse ++ h.notices }

/-- Takes note of what happened at a time. -/
def Host.happen (h : Host) (now : Nat) (what : Happening) : Host :=
  { h with history := (now, what) :: h.history }

/-- Takes note of the end of a task. -/
def Host.finish (number : Nat) (outcome : TaskOutcome) (h : Host) : Host :=
  { h with outcomes := (number, outcome) :: h.outcomes }

/-- How a task ended. -/
def Host.outcome? (h : Host) (number : Nat) : Option TaskOutcome :=
  h.outcomes.lookup number

/-- Whether a task has ended. -/
def Host.hasEnded (h : Host) (number : Nat) : Bool :=
  (h.outcome? number).isSome

/-- The invocation of a constructor for an id, if the happening is one. -/
def Happening.invocationFor? (id : String) : Happening → Option Invocation
  | .constructed id' _ invocation _ => if id' = id then some invocation else none
  | _ => none

@[simp] theorem Happening.invocationFor?_constructed {id version : String}
    {invocation : Invocation} {journaled : Bool} :
    (constructed id version invocation journaled).invocationFor? id = some invocation :=
  if_pos rfl

/-- The constructors that have been invoked for an id, the last one first. -/
def Host.invocations (h : Host) (id : String) : List Invocation :=
  h.history.filterMap fun (_, w) => w.invocationFor? id

/-! ## Instances -/

/-- The instance with a number. -/
def Host.instance? (h : Host) (number : Nat) : Option Instance :=
  h.instances[number]?

/-- Changes the instance with a number. -/
def Host.modifyInstance (h : Host) (number : Nat) (f : Instance → Instance) : Host :=
  { h with instances := h.instances.modify number f }

/-- The host with one more instance. -/
def Host.addInstance (h : Host) (i : Instance) : Host :=
  { h with instances := h.instances ++ [i] }

/-- The number that the next instance gets. -/
def Host.nextInstance (h : Host) : Nat :=
  h.instances.length

/-- The registered instances with their numbers, in the order of the ids they are
registered under. -/
def Host.registered (h : Host) : List (Nat × Instance) :=
  h.registry.records.filterMap fun (_, number) => (h.instance? number).map (number, ·)

/-- The instance registered under an id. -/
def Host.record? (h : Host) (id : String) : Option Instance :=
  (h.registry.get? id).bind h.instance?

/-- Registers an instance under an id, unless the id is blank. -/
def Host.register (h : Host) (now : Nat) (id : String) (number : Nat) :
    Except LifecycleError Unit × Host :=
  if isBlankText id then
    (.error (.invalidRegistration "extension id cannot be empty"), h)
  else
    -- What was registered there is told nothing.
    let replaced := (h.registry.get? id).isSome
    let context := (h.instance? number).bind (·.context)
    let h := { h with registry := h.registry.insert id number context }
    (.ok (), (h.happen now (.registered id number)).notice
      (if replaced then [.recordReplaced id] else []))

/-- Takes out the instance registered under an id. -/
def Host.unregister (h : Host) (now : Nat) (id : String) : Option Nat × Host :=
  let found := h.registry.get? id
  let h := { h with registry := h.registry.erase id }
  (found, match found with
    | some number => h.happen now (.unregistered id number)
    | none => h)

end ExtensionHost
