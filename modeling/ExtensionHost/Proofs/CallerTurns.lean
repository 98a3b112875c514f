import ExtensionHost.Proofs.Roll

/-!
# Turns of a caller

A call of a program on a machine, as the caller sees it: its own turns, and in between
whatever may become of the machine. The order in which a machine takes the turns is left
open, so what holds of every call holds for every schedule.
-/

namespace ExtensionHost

open Program

variable {σ ι ρ α β : Type} {jobs : Jobs σ ι ρ} {m m' : Machine σ ι ρ}

/-! ## What a turn sets off -/

/-- The jobs that a program sets off in a turn, in order. -/
def Program.setsOff (jobs : Jobs σ ι ρ) : Program σ ι α → Machine σ ι ρ → List ι
  | .done _, _ | .breakDown _, _ | .goOn _, _ => []
  | .act step next, m =>
    (next (step m.time m.state).1).setsOff jobs { m with state := (step m.time m.state).2 }
  | .wait ready deadline next, m =>
    if m.isOver ready deadline then next.setsOff jobs m else []
  | .spawn own job next, m => job :: (next m.nextNumber).setsOff jobs (m.spawn jobs own job)

/-- The jobs that are set off are the new tasks. -/
theorem runTurn_tasks (p : Program σ ι α) (m : Machine σ ι ρ) :
    (p.runTurn jobs m).2.tasks.map (·.next) =
      m.tasks.map (·.next) ++ (p.setsOff jobs m).map jobs.program := by
  induction p generalizing m with
  | done | breakDown | goOn => simp [runTurn, setsOff]
  | act step next ih => exact ih _ _
  | wait ready deadline next ih =>
    unfold runTurn setsOff
    split
    · exact ih m
    · simp
  | spawn own job next ih => simp [runTurn, setsOff, ih, Machine.spawn]

/-! ## Callers -/

/-- A caller between its turns: the jobs it has set off so far, where it has stopped, and the
machine. -/
structure Caller (σ ι ρ α : Type) where
  setOff : List ι
  stop : Stop σ ι α
  machine : Machine σ ι ρ

/-- The caller after one more turn. -/
def Caller.turn (jobs : Jobs σ ι ρ) (before : List ι) (p : Program σ ι α) (m : Machine σ ι ρ) :
    Caller σ ι ρ α :=
  ⟨before ++ p.setsOff jobs m, (p.runTurn jobs m).1, (p.runTurn jobs m).2⟩

/-- The caller of a program on a machine, after its first turn. -/
def Machine.call (m : Machine σ ι ρ) (jobs : Jobs σ ι ρ) (p : Program σ ι α) : Caller σ ι ρ α :=
  .turn jobs [] p m

/-- A caller that waits sees the machine change as `meanwhile` has it, or has a turn once its
wait is over. -/
inductive Caller.Step (jobs : Jobs σ ι ρ)
    (meanwhile : (σ → Bool) → Option Nat → Machine σ ι ρ → Machine σ ι ρ → Prop) :
    Caller σ ι ρ α → Caller σ ι ρ α → Prop where
  | between {l ready deadline next m m'} : meanwhile ready deadline m m' →
      Step jobs meanwhile ⟨l, .waits ready deadline next, m⟩ ⟨l, .waits ready deadline next, m'⟩
  | wakes {l ready deadline next m} : m.isOver ready deadline = true →
      Step jobs meanwhile ⟨l, .waits ready deadline next, m⟩ (.turn jobs l next m)

/-- What becomes of a caller. -/
def Caller.Reaches (jobs : Jobs σ ι ρ)
    (meanwhile : (σ → Bool) → Option Nat → Machine σ ι ρ → Machine σ ι ρ → Prop) :
    Caller σ ι ρ α → Caller σ ι ρ α → Prop :=
  Relation.ReflTransGen (Caller.Step jobs meanwhile)

/-! ## Machines with their callers -/

/-- What a machine does at once while its caller waits: any task whose wait is over has its
turn; or, where nobody's wait is over, time passes, at most to the next deadline; or the state
is altered from outside. -/
inductive Machine.Onward (jobs : Jobs σ ι ρ) (alters : σ → σ → Prop) (ready : σ → Bool)
    (deadline : Option Nat) (m : Machine σ ι ρ) : Machine σ ι ρ → Prop where
  | task {a : Task σ ι ρ} : a ∈ m.tasks → m.isOver a.ready a.deadline = true →
      Onward jobs alters ready deadline m (m.runTask jobs a)
  | passes {time : Nat} : m.isOver ready deadline = false →
      (∀ a ∈ m.tasks, m.isOver a.ready a.deadline = false) → m.time ≤ time →
      (∀ d ∈ deadline, time ≤ d) → (∀ a ∈ m.tasks, ∀ d ∈ a.deadline, time ≤ d) →
      Onward jobs alters ready deadline m { m with time := time }
  | altered {s : σ} : alters m.state s → Onward jobs alters ready deadline m { m with state := s }

theorem earliest?_of_mem {deadlines : List (Option Nat)} {d : Nat} (hd : some d ∈ deadlines) :
    ∃ time, earliest? deadlines = some time ∧ time ≤ d := by
  induction deadlines with
  | nil => exact absurd hd List.not_mem_nil
  | cons first rest ih =>
    obtain rfl | hrest := List.mem_cons.mp hd
    · unfold earliest?
      cases earliest? rest with
      | none => exact ⟨d, rfl, Nat.le_refl d⟩
      | some u => exact ⟨min d u, rfl, Nat.min_le_left d u⟩
    · obtain ⟨time, htime, hle⟩ := ih hrest
      unfold earliest?
      cases first with
      | none => exact ⟨time, htime, hle⟩
      | some u =>
        simp only [htime]
        exact ⟨min u time, rfl, Nat.le_trans (Nat.min_le_right u time) hle⟩

/-- No deadline comes before the next one. -/
theorem earliest?_le {deadlines : List (Option Nat)} {time d : Nat}
    (h : earliest? deadlines = some time) (hd : some d ∈ deadlines) : time ≤ d := by
  obtain ⟨first, hfirst, hle⟩ := earliest?_of_mem hd
  cases h.symm.trans hfirst
  exact hle

section Running

variable {alters : σ → σ → Prop} {l : List ι} {ready : σ → Bool} {deadline : Option Nat}
variable {next : Program σ ι α} {a : α}

/-- A machine runs its caller to the end in one of the orders that are open. -/
theorem runFrom_reaches {fuel : Nat} {turn : Bool}
    (hrun : m.runFrom jobs fuel turn ready deadline next = (.value a, m')) :
    ∃ c, Caller.Reaches jobs (Machine.Onward jobs alters) ⟨l, .waits ready deadline next, m⟩ c ∧
      c.stop = .done a ∧ c.machine = m' := by
  induction fuel generalizing turn ready deadline next m l with
  | zero => cases hrun
  | succ fuel ih =>
    have htask {b : Task σ ι ρ} {own turn : Bool} (hb : m.readyTask? own = some b)
        (hrun : (m.runTask jobs b).runFrom jobs fuel turn ready deadline next = (.value a, m')) :
        ∃ c, Caller.Reaches jobs (Machine.Onward jobs alters)
          ⟨l, .waits ready deadline next, m⟩ c ∧ c.stop = .done a ∧ c.machine = m' := by
      obtain ⟨hmem, hover⟩ := readyTask?_some hb
      obtain ⟨c, hreaches, hc⟩ := ih hrun
      exact ⟨c, .head (.between (.task hmem hover)) hreaches, hc⟩
    cases turn with
    | true =>
      unfold Machine.runFrom at hrun
      split at hrun
      next b hb => exact htask hb hrun
      next hnone =>
        split at hrun
        next hover =>
          have hwakes : Caller.Step jobs (Machine.Onward jobs alters)
              ⟨l, .waits ready deadline next, m⟩ (.turn jobs l next m) := .wakes hover
          unfold Caller.turn at hwakes
          generalize next.setsOff jobs m = more at hwakes
          generalize next.runTurn jobs m = turned at hrun hwakes
          obtain ⟨stop, m₁⟩ := turned
          cases stop with
          | done b =>
            cases hrun
            exact ⟨_, .single hwakes, rfl, rfl⟩
          | waits =>
            obtain ⟨c, hreaches, hc⟩ := ih hrun
            exact ⟨c, .head hwakes hreaches, hc⟩
          | brokeDown | goesOn => cases hrun
        next => exact ih hrun
    | false =>
      unfold Machine.runFrom at hrun
      split at hrun
      next b hb => exact htask hb hrun
      next hnone =>
        split at hrun
        next => exact ih hrun
        next hover =>
          split at hrun
          next time htime =>
            -- Nobody's wait is over, and the machine moves straight to the next deadline.
            obtain ⟨hover, hown⟩ := Bool.or_eq_false_iff.mp (Bool.not_eq_true _ ▸ hover)
            have hown : m.readyTask? true = none :=
              Option.not_isSome_iff_eq_none.mp (by simp [hown])
            have hpasses : m.Onward jobs alters ready deadline { m with time := time } := by
              apply Machine.Onward.passes hover
              · exact fun b hb => not_isOver_of_readyTask?_none hown hnone hb
              · exact earliest?_time hover hown hnone htime
              · intro d hd
                exact earliest?_le htime (hd ▸ List.mem_cons_self)
              · intro b hb d hd
                exact earliest?_le htime (List.mem_cons_of_mem _ (List.mem_map.mpr ⟨b, hb, hd⟩))
            obtain ⟨c, hreaches, hc⟩ := ih hrun
            exact ⟨c, .head (.between hpasses) hreaches, hc⟩
          next => cases hrun

theorem call_reaches {fuel : Nat} {p : Program σ ι α} (htasks : m.tasks = [])
    (hrun : m.runFrom jobs (fuel + 1) true (fun _ => true) none p = (.value a, m')) :
    ∃ c, (m.call jobs p).Reaches jobs (Machine.Onward jobs alters) c ∧
      c.stop = .done a ∧ c.machine = m' := by
  have hnone : m.readyTask? true = none := by simp [Machine.readyTask?, htasks]
  have hover : m.isOver (fun _ => true) none = true := rfl
  simp only [Machine.runFrom, hnone, hover, if_true] at hrun
  unfold Machine.call Caller.turn
  generalize p.setsOff jobs m = more
  generalize p.runTurn jobs m = turned at hrun
  obtain ⟨stop, m₁⟩ := turned
  cases stop with
  | done b =>
    cases hrun
    exact ⟨_, .refl, rfl, rfl⟩
  | waits ready deadline next => exact runFrom_reaches hrun
  | brokeDown | goesOn => cases hrun

/-- The value that a run of a caller ends with, if it does. -/
def CallEnd.value? : CallEnd α → Option α
  | .value a => some a
  | .brokeDown _ | .stuck => none

/-- A caller whose program a machine without tasks runs to its end comes to that end, before
the tasks that are ready then have their turns. -/
theorem runFrom_value_reaches {fuel : Nat} {p : Program σ ι α} (htasks : m.tasks = [])
    (hrun : (m.runFrom jobs (fuel + 1) true (fun _ => true) none p).1.value? = some a) :
    ∃ c, (m.call jobs p).Reaches jobs (Machine.Onward jobs alters) c ∧ c.stop = .done a ∧
      c.machine = (m.runFrom jobs (fuel + 1) true (fun _ => true) none p).2 := by
  generalize hend : m.runFrom jobs (fuel + 1) true (fun _ => true) none p = ended at hrun ⊢
  obtain ⟨ending, m'⟩ := ended
  cases ending with
  | value b =>
    cases hrun
    exact call_reaches htasks hend
  | brokeDown | stuck => cases hrun

theorem run_reaches {p : Program σ ι α} (htasks : m.tasks = [])
    (hrun : (m.run jobs p).1.value? = some a) :
    ∃ c, (m.call jobs p).Reaches jobs (Machine.Onward jobs alters) c ∧ c.stop = .done a := by
  have hvalue : (m.runFrom jobs (999999 + 1) true (fun _ => true) none p).1.value? = some a := hrun
  obtain ⟨c, hreach, hstop, -⟩ := runFrom_value_reaches htasks hvalue
  exact ⟨c, hreach, hstop⟩

end Running

end ExtensionHost
