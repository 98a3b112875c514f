import ExtensionHost.Program

/-!
# Schedules

How programs share a state in virtual time. One program, the caller, is run to
its end; the jobs that are set off on the way are tasks. At each instant the
caller and its own tasks are run first, and then the other tasks, in the order in
which they began to wait. Time passes only when every one of them waits, and then
moves straight to the next deadline.
-/

namespace ExtensionHost

/-! ## Tasks -/

/-- A task that waits: the condition and the deadline, and what it does then. -/
structure Task (σ ι ρ : Type) where
  number : Nat
  own : Bool
  ready : σ → Bool
  deadline : Option Nat
  next : Program σ ι ρ

/-- What jobs are, and how the state takes note of the end of a task: the value it
ends in, or the message it broke down with. -/
structure Jobs (σ ι ρ : Type) where
  program : ι → Program σ ι ρ
  finish : Nat → Except String ρ → σ → σ

/-- The time, the state, the tasks in the order in which they began to wait, and the
number that the next one gets. -/
structure Machine (σ ι ρ : Type) where
  time : Nat
  state : σ
  tasks : List (Task σ ι ρ)
  nextNumber : Nat

/-- The machine without tasks, at the start of time. -/
def Machine.start {σ ι ρ : Type} (s : σ) : Machine σ ι ρ :=
  ⟨0, s, [], 0⟩

/-- Where a program stops. -/
inductive Stop (σ ι α : Type) : Type 1 where
  | done (a : α)
  | brokeDown (message : String)
  | waits (ready : σ → Bool) (deadline : Option Nat) (next : Program σ ι α)
  | goesOn (job : ι)

variable {σ ι ρ α : Type}

/-- Whether a wait is over. -/
def Machine.isOver (m : Machine σ ι ρ) (ready : σ → Bool) (deadline : Option Nat) : Bool :=
  ready m.state || deadline.any (· ≤ m.time)

/-- A new task, which does nothing before its turn. -/
def Machine.spawn (m : Machine σ ι ρ) (jobs : Jobs σ ι ρ) (own : Bool) (job : ι) :
    Machine σ ι ρ :=
  { m with
    tasks := m.tasks ++ [⟨m.nextNumber, own, fun _ => true, none, jobs.program job⟩]
    nextNumber := m.nextNumber + 1 }

/-- Runs a program until it waits or ends. -/
def Program.runTurn (jobs : Jobs σ ι ρ) : Program σ ι α → Machine σ ι ρ →
    Stop σ ι α × Machine σ ι ρ
  | .done a, m => (.done a, m)
  | .breakDown message, m => (.brokeDown message, m)
  | .act step next, m =>
    (next (step m.time m.state).1).runTurn jobs { m with state := (step m.time m.state).2 }
  | .wait ready deadline next, m =>
    if m.isOver ready deadline then next.runTurn jobs m else (.waits ready deadline next, m)
  | .spawn own job next, m => (next m.nextNumber).runTurn jobs (m.spawn jobs own job)
  | .goOn job, m => (.goesOn job, m)

/-! ## Turns of tasks -/

/-- Lets a task go on as a job, in its place among the tasks. -/
def Machine.renewTask (m : Machine σ ι ρ) (jobs : Jobs σ ι ρ) (number : Nat) (job : ι) :
    Machine σ ι ρ :=
  { m with
    tasks := m.tasks.map fun t =>
      if t.number = number then
        { t with ready := fun _ => true, deadline := none, next := jobs.program job }
      else t }

/-- Puts a task that has begun to wait behind all others. -/
def Machine.suspendTask (m : Machine σ ι ρ) (t : Task σ ι ρ) : Machine σ ι ρ :=
  { m with tasks := m.tasks.filter (·.number != t.number) ++ [t] }

/-- Takes out a task that has ended, of which the state takes note. -/
def Machine.endTask (m : Machine σ ι ρ) (jobs : Jobs σ ι ρ) (number : Nat)
    (outcome : Except String ρ) : Machine σ ι ρ :=
  { m with
    tasks := m.tasks.filter (·.number != number)
    state := jobs.finish number outcome m.state }

/-- One turn of a task. One that goes on as a job does so in its next turn, which
comes before those of the tasks behind it. -/
def Machine.runTask (m : Machine σ ι ρ) (jobs : Jobs σ ι ρ) (t : Task σ ι ρ) : Machine σ ι ρ :=
  match t.next.runTurn jobs m with
  | (.done a, m) => m.endTask jobs t.number (.ok a)
  | (.brokeDown message, m) => m.endTask jobs t.number (.error message)
  | (.waits ready deadline next, m) =>
    m.suspendTask { t with ready := ready, deadline := deadline, next := next }
  | (.goesOn job, m) => m.renewTask jobs t.number job

/-- The first task, of the caller or not, whose wait is over. -/
def Machine.readyTask? (m : Machine σ ι ρ) (own : Bool) : Option (Task σ ι ρ) :=
  m.tasks.find? fun t => t.own == own && m.isOver t.ready t.deadline

/-- The next deadline after a list of waits, if there is any. -/
def earliest? : List (Option Nat) → Option Nat
  | [] => none
  | none :: rest => earliest? rest
  | some t :: rest => some (match earliest? rest with
    | some u => min t u
    | none => t)

/-! ## Running -/

/-- Runs the tasks whose waits are over, until there are none at this instant. -/
def Machine.settle (jobs : Jobs σ ι ρ) : Nat → Machine σ ι ρ → Machine σ ι ρ
  | 0, m => m
  | fuel + 1, m =>
    match m.readyTask? false with
    | some t => (m.runTask jobs t).settle jobs fuel
    | none => m

/-- How the run of a caller ends: with a value, by breaking down, or not at all. -/
inductive CallEnd (α : Type) where
  | value (a : α)
  | brokeDown (message : String)
  | stuck

/-- Runs the caller from a wait of its own. The flag tells whether it is the turn
of the caller and its tasks, or the one of the others. -/
def Machine.runFrom (jobs : Jobs σ ι ρ) : Nat → Bool → (σ → Bool) → Option Nat →
    Program σ ι α → Machine σ ι ρ → CallEnd α × Machine σ ι ρ
  | 0, _, _, _, _, m => (.stuck, m)
  | fuel + 1, true, ready, deadline, caller, m =>
    match m.readyTask? true with
    | some t => (m.runTask jobs t).runFrom jobs fuel true ready deadline caller
    | none =>
      -- The caller has its turn after those of its own tasks.
      if m.isOver ready deadline then
        match caller.runTurn jobs m with
        | (.done a, m) => (.value a, m)
        | (.brokeDown message, m) => (.brokeDown message, m)
        | (.waits ready deadline next, m) => m.runFrom jobs fuel true ready deadline next
        | (.goesOn _, m) => (.stuck, m)
      else m.runFrom jobs fuel false ready deadline caller
  | fuel + 1, false, ready, deadline, caller, m =>
    match m.readyTask? false with
    | some t => (m.runTask jobs t).runFrom jobs fuel false ready deadline caller
    | none =>
      -- The others may have made something ready for the caller at this very instant.
      if m.isOver ready deadline || (m.readyTask? true).isSome then
        m.runFrom jobs fuel true ready deadline caller
      else
        match earliest? (deadline :: m.tasks.map (·.deadline)) with
        | some time => { m with time := time }.runFrom jobs fuel true ready deadline caller
        | none => (.stuck, m)

/-- The number of turns after which a run is given up. -/
def turnLimit : Nat := 1000000

/-- Runs a caller to its end, and then every task that is ready at that instant. -/
def Machine.run (jobs : Jobs σ ι ρ) (caller : Program σ ι α) (m : Machine σ ι ρ) :
    CallEnd α × Machine σ ι ρ :=
  let (ending, m) := m.runFrom jobs turnLimit true (fun _ => true) none caller
  (ending, m.settle jobs turnLimit)

end ExtensionHost
