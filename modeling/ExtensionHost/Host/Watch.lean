import ExtensionHost.Host.Lifecycle

/-!
# Watching

The watch keeps the registry in step with the folders on disk. At every tick the
two are compared, and the changes that are needed are made.
-/

namespace ExtensionHost

/-! ## Comparing -/

/-- The version that an instance was loaded from: the one its context knows, or
else the one it reports. -/
def Host.loadedVersion (h : Host) (i : Instance) : String :=
  ((h.registry.context? i.id).bind (·.sourceVersion)).getD i.descriptor.version

/-- The change that brings an extension in step with an event of a scan. -/
def Host.neededChange? (h : Host) (e : Event) : Option Change :=
  match e.change, h.record? e.id with
  | .enable, none => some .enable
  | .enable, some i =>
    if h.loadedVersion i != e.descriptor.version then some .update
    else if !i.enabled then some .enable
    else none
  | .disable, some i => if i.enabled then some .disable else none
  | _, _ => none

/-- Whether an instance has no folder any more. -/
def Host.isGone (h : Host) (i : Instance) : Bool :=
  let folder := i.descriptor.folder
  (folder.isEmpty || !h.files.exists folder) &&
    match h.settings.layout.locate h.files i.id with
    | .ok _ => false
    | .error _ => true

/-- The events that bring the registry in step with the folders, and what is
noticed: first those for the folders, then removals. -/
def Host.reconcile (h : Host) : List Event × List Notice :=
  let (scanned, notices) := h.settings.layout.scan h.files
  let changes := scanned.filterMap fun e => (h.neededChange? e).map (.of · e.descriptor)
  let onDisk := scanned.map Event.id
  let gone := (h.registered.map (·.2)).filter fun i => !onDisk.contains i.id && h.isGone i
  (changes ++ gone.map fun i => .of .remove i.descriptor, notices)

/-- Compares once, and makes the changes that are needed. -/
def pollOnce : HostProgram BatchResult := do
  let events ← Program.step fun h => (h.reconcile.1, h.notice h.reconcile.2)
  handleBatch events

/-! ## The task -/

/-- How late a tick may be and still not delay the ones after it. -/
def tickToleranceMs : Nat := 5

/-- The time of the tick after one that was due at a time. -/
def tickAfter (interval due now : Nat) : Nat :=
  if due + tickToleranceMs < now then now + interval else due + interval

/-- What ends a wait of the watch. -/
inductive WatchTurn where
  | told
  | tick (next : Nat)
  deriving DecidableEq, Repr

/-- The watch hears that it was told to end, and that is forgotten. -/
def Host.hearTold (h : Host) : Host :=
  { h with watch := { h.watch with told := false } }

/-- A tie has been decided. -/
def Host.dropTie (h : Host) : Host :=
  { h with ties := fun n => h.ties (n + 1) }

/-- The end of a wait for a tick. If the watch was told to end and the tick is due, then
either may win; what it was told is kept where it is not heard. -/
def Host.watchTurn (h : Host) (now due : Nat) : WatchTurn × Host :=
  let tick := .tick (tickAfter h.settings.policy.hotReloadIntervalMs due now)
  if !h.watch.told then (tick, h)
  else if now < due then (.told, h.hearTold)
  else if h.ties 0 then (.told, h.dropTie.hearTold)
  else (tick, h.dropTie)

/-- The end of a wait changes nothing but what the watch was told and the ties. -/
theorem Host.watchTurn_snd (h : Host) (now due : Nat) : ∃ told ties,
    (h.watchTurn now due).2 = { h with watch := { h.watch with told := told }, ties := ties } := by
  unfold watchTurn
  dsimp only
  (repeat' split) <;> exact ⟨_, _, rfl⟩

/-- The watch goes on to its next tick, if it is meant to run. -/
def watchOn (next : Nat) : HostProgram (Except HostError Unit) := do
  match ← Program.ask (·.watch.running) with
  | true => .goOn (.watch (some next))
  | false => return .ok ()

/-- Waits for a tick, compares, and goes on. -/
def watchTick (due : Nat) : HostProgram (Except HostError Unit) :=
  .wait (·.watch.told) (some due) <|
    .act (fun now h => h.watchTurn now due) fun turn =>
      match turn with
      | .told => .done (.ok ())
      | .tick next => do
        let _ ← pollOnce
        watchOn next

/-- The work of the watch: the first tick is one interval after its start. -/
def watchJob : Option Nat → HostProgram (Except HostError Unit)
  | some due => watchTick due
  | none => do
    let start ← Program.now
    let interval ← Program.ask (·.settings.policy.hotReloadIntervalMs)
    match ← Program.ask (·.watch.running) with
    | true => watchTick (start + interval)
    | false => return .ok ()

/-! ## Starting and stopping -/

/-- Starts the watch, unless it is running. -/
def startWatch : HostProgram Unit := do
  let interval ← Program.ask (·.settings.policy.hotReloadIntervalMs)
  let running ← Program.ask (·.watch.running)
  if interval = 0 then note .watchIntervalZero
  else if running then return ()
  else
    Program.change fun h => { h with watch := { h.watch with running := true } }
    Program.spawn false (.watch none) fun number =>
      .change fun h => { h with watch := { h.watch with task := some number } }

/-- What is noticed when the task of the watch has ended. -/
def watchEndNotices : Option TaskOutcome → List Notice
  | some (.error message) => [.watchBrokeDown ("task # panicked with message " ++ quoted message)]
  | _ => []

/-- Stops the watch, and waits for its task to end. -/
def stopWatch : HostProgram Unit := do
  match ← Program.ask (·.watch.running) with
  | false => return ()
  | true =>
    let task ← Program.step fun h => (h.watch.task, { h with watch := ⟨false, true, none⟩ })
    match task with
    | none => return ()
    | some number =>
      let outcome ← awaitTask number none
      noteAll (watchEndNotices outcome)

end ExtensionHost
