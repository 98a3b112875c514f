/-!
# Programs

What one task does: steps on a shared state, each of them undivided, with waits
between them. Other tasks can act only while a program waits, so everything
between two waits happens as one.
-/

namespace ExtensionHost

/-! ## Programs -/

/-- A program on a state `σ` that ends in a value of type `α`. Steps know the
time in milliseconds. A wait ends when its condition holds or its deadline has
come. Jobs of type `ι` can be set off, beside the program or among its own tasks,
and are known by a number from then on. A program may also go on as a job. -/
inductive Program (σ ι α : Type) : Type 1 where
  | done (a : α)
  | breakDown (message : String)
  | act {β : Type} (step : Nat → σ → β × σ) (next : β → Program σ ι α)
  | wait (ready : σ → Bool) (deadline : Option Nat) (next : Program σ ι α)
  | spawn (own : Bool) (job : ι) (next : Nat → Program σ ι α)
  | goOn (job : ι)

variable {σ ι α β γ : Type}

namespace Program

/-- One program after another. A program that breaks down or goes on as a job has
nothing after it. -/
def bind : Program σ ι α → (α → Program σ ι β) → Program σ ι β
  | done a, k => k a
  | breakDown message, _ => breakDown message
  | act step next, k => act step fun b => (next b).bind k
  | wait ready deadline next, k => wait ready deadline (next.bind k)
  | spawn own job next, k => spawn own job fun n => (next n).bind k
  | goOn job, _ => goOn job

instance : Monad (Program σ ι) where
  pure := done
  bind := bind

@[simp] theorem bind_eq (p : Program σ ι α) (k : α → Program σ ι β) : (p >>= k) = p.bind k := rfl

@[simp] theorem pure_eq (a : α) : (pure a : Program σ ι α) = done a := rfl

/-- A step on the state. -/
def change (f : σ → σ) : Program σ ι Unit :=
  act (fun _ s => ((), f s)) done

/-- A step on the state that knows the time. -/
def changeAt (f : Nat → σ → σ) : Program σ ι Unit :=
  act (fun now s => ((), f now s)) done

/-- A question about the state. -/
def ask (f : σ → α) : Program σ ι α :=
  act (fun _ s => (f s, s)) done

/-- A step on the state with an answer. -/
def step (f : σ → α × σ) : Program σ ι α :=
  act (fun _ s => f s) done

/-- The time. -/
def now : Program σ ι Nat :=
  act (fun now s => (now, s)) done

/-- Ends in a value, or breaks down with a message. -/
def ofOutcome : Except String α → Program σ ι α
  | .ok a => done a
  | .error message => breakDown message

/-- Waits until a time. -/
def sleepUntil (time : Nat) : Program σ ι Unit :=
  wait (fun _ => false) (some time) (done ())

/-- Waits for a number of milliseconds. -/
def sleep (ms : Nat) : Program σ ι Unit :=
  act (fun now s => (now + ms, s)) sleepUntil

/-- One program for each element of a list, in order. -/
def forEach (f : α → Program σ ι Unit) : List α → Program σ ι Unit
  | [] => done ()
  | a :: rest => (f a).bind fun _ => forEach f rest

/-! ## Laws -/

@[simp] theorem pure_bind (a : α) (k : α → Program σ ι β) : (done a).bind k = k a := rfl

@[simp] theorem breakDown_bind (message : String) (k : α → Program σ ι β) :
    (breakDown message).bind k = breakDown message := rfl

@[simp] theorem ofOutcome_ok (a : α) : (ofOutcome (.ok a) : Program σ ι α) = done a := rfl

@[simp] theorem ofOutcome_error (message : String) :
    (ofOutcome (.error message) : Program σ ι α) = breakDown message := rfl

@[simp] theorem bind_done (p : Program σ ι α) : p.bind done = p := by
  induction p with
  | done a => rfl
  | breakDown message => rfl
  | act step next ih => simp [bind, ih]
  | wait ready deadline next ih => simp [bind, ih]
  | spawn own job next ih => simp [bind, ih]
  | goOn job => rfl

@[simp] theorem bind_assoc (p : Program σ ι α) (k : α → Program σ ι β) (l : β → Program σ ι γ) :
    (p.bind k).bind l = p.bind fun a => (k a).bind l := by
  induction p with
  | done a => rfl
  | breakDown message => rfl
  | act step next ih => simp [bind, ih]
  | wait ready deadline next ih => simp [bind, ih]
  | spawn own job next ih => simp [bind, ih]
  | goOn job => rfl

end Program

end ExtensionHost
