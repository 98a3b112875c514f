import ExtensionHost.Proofs.Turns

/-!
# Whole turns

While a program does not wait it is alone. So the steps that it makes between two waits are
seen as one turn, and a property of such turns may not hold yet of the steps that a turn has
begun with. The rules below follow the program, and what they show holds of every turn that
a machine gives to a task.
-/

namespace ExtensionHost

open Program

variable {σ ι ρ α β : Type} {jobs : Jobs σ ι ρ} {R : List (Step σ) → Prop}
variable {t u : Nat} {s s' : σ} {x : Step σ} {xs ys : List (Step σ)}

/-! ## Rules -/

/-- In a turn that has made the steps `xs` the program goes on from the time and the state.
Where it stops, `R` holds of all the steps of the turn; where it ends with a value, `post`
holds. -/
def Program.turns (R : List (Step σ) → Prop) (post : Nat → List (Step σ) → σ → α → Prop) :
    Program σ ι α → Nat → List (Step σ) → σ → Prop
  | done a, t, xs, s => post t xs s a
  | breakDown _, _, xs, _ | goOn _, _, xs, _ => R xs
  | act step next, t, xs, s =>
    (next (step t s).1).turns R post t (xs ++ [⟨true, t, s, (step t s).2⟩]) (step t s).2
  | wait ready deadline next, t, xs, _ =>
    R xs ∧ ∀ t₁ s₁, t ≤ t₁ → (ready s₁ || deadline.any (· ≤ t₁)) = true →
      next.turns R post t₁ [] s₁
  | spawn _ _ next, t, xs, s => ∀ number, (next number).turns R post t xs s

/-- In a turn that has made some steps, `R` holds of all its steps when the program stops. -/
def Program.TurnsOn (R : List (Step σ) → Prop) (p : Program σ ι α) :
    Nat → List (Step σ) → σ → Prop :=
  p.turns R fun _ xs _ _ => R xs

/-- `R` holds of the steps of each turn of the program. -/
def Program.Turns (R : List (Step σ) → Prop) (p : Program σ ι α) : Prop :=
  ∀ t s, p.TurnsOn R t [] s

/-- Turns with the property make up turns with the property. -/
structure Composes (R : List (Step σ) → Prop) : Prop where
  nil : R []
  append : ∀ {xs ys}, R xs → R ys → R (xs ++ ys)

section Rules

variable {p : Program σ ι α} {post post' : Nat → List (Step σ) → σ → α → Prop}

theorem turns_bind {k : α → Program σ ι β} {post : Nat → List (Step σ) → σ → β → Prop}
    (h : p.turns R (fun t xs s a => (k a).turns R post t xs s) t xs s) :
    (p.bind k).turns R post t xs s := by
  induction p generalizing t xs s with
  | done a => exact h
  | breakDown message => exact h
  | act step next ih => exact ih _ h
  | wait ready deadline next ih => exact ⟨h.1, fun t₁ s₁ hle hover => ih (h.2 t₁ s₁ hle hover)⟩
  | spawn own job next ih => exact fun number => ih number (h number)
  | goOn job => exact h

theorem turns_mono (h : p.turns R post t xs s)
    (hpost : ∀ {t xs s a}, post t xs s a → post' t xs s a) : p.turns R post' t xs s := by
  induction p generalizing t xs s with
  | done a => exact hpost h
  | breakDown | goOn => exact h
  | act step next ih => exact ih _ h
  | wait ready deadline next ih => exact ⟨h.1, fun t₁ s₁ hle hover => ih (h.2 t₁ s₁ hle hover)⟩
  | spawn own job next ih => exact fun number => ih number (h number)

/-- A program goes on with a turn that has the property so far. -/
theorem Program.Turns.goesOn (h : p.Turns R) (hR : Composes R) (hxs : R xs) :
    p.TurnsOn R t xs s := by
  have hon {p : Program σ ι α} {t ys s} (h : p.TurnsOn R t ys s) : p.TurnsOn R t (xs ++ ys) s := by
    induction p generalizing t ys s with
    | done | breakDown | goOn => exact hR.append hxs h
    | act step next ih =>
      have hnext := ih _ h
      rwa [← List.append_assoc] at hnext
    | wait ready deadline next => exact ⟨hR.append hxs h.1, h.2⟩
    | spawn own job next ih => exact fun number => ih number (h number)
  simpa using hon (h t s)

theorem Program.Turns.bind {k : α → Program σ ι β} (hp : p.Turns R) (hR : Composes R)
    (hk : ∀ a, (k a).Turns R) : (p.bind k).Turns R :=
  fun t s => turns_bind (turns_mono (hp t s) fun hxs => (hk _).goesOn hR hxs)

theorem turns_done (hR : Composes R) (a : α) : (done a : Program σ ι α).Turns R :=
  fun _ _ => hR.nil

theorem turns_goOn (hR : Composes R) (job : ι) : (goOn job : Program σ ι α).Turns R :=
  fun _ _ => hR.nil

theorem turns_wait (hR : Composes R) {ready : σ → Bool} {deadline : Option Nat} (h : p.Turns R) :
    (wait ready deadline p).Turns R :=
  fun _ _ => ⟨hR.nil, fun t₁ s₁ _ _ => h t₁ s₁⟩

theorem turns_spawn {own : Bool} {job : ι} {next : Nat → Program σ ι α}
    (h : ∀ number, (next number).Turns R) : (spawn own job next).Turns R :=
  fun t s number => h number t s

theorem turns_act (hR : Composes R) {step : Nat → σ → β × σ} {next : β → Program σ ι α}
    (hstep : ∀ t s, R [⟨true, t, s, (step t s).2⟩]) (hnext : ∀ b, (next b).Turns R) :
    (act step next).Turns R :=
  fun t s => (hnext _).goesOn hR (hstep t s)

/-- A property that holds of every single step of a program holds of its turns. -/
theorem Program.Does.turns {guar : Nat → σ → σ → Prop} (h : p.Does guar) (hR : Composes R)
    (hguar : ∀ {t s s'}, guar t s s' → R [⟨true, t, s, s'⟩]) : p.Turns R := by
  have hwp {p : Program σ ι α} {t xs s}
      (h : p.wp (fun _ _ => True) guar (fun _ _ _ => True) t s) (hxs : R xs) :
      p.TurnsOn R t xs s := by
    induction p generalizing t xs s with
    | done | breakDown | goOn => exact hxs
    | act step next ih => exact ih _ h.2 (hR.append hxs (hguar h.1))
    | wait ready deadline next ih =>
      exact ⟨hxs, fun t₁ s₁ hle hover => ih (h t₁ s₁ hle trivial hover) hR.nil⟩
    | spawn own job next ih => exact fun number => ih number (h number) hxs
  exact fun t s => hwp (h t s) hR.nil

end Rules

/-! ## The steps of a turn -/

/-- The steps that a program makes in a turn. -/
def Program.turnSteps (jobs : Jobs σ ι ρ) : Program σ ι α → Machine σ ι ρ → List (Step σ)
  | .done _, _ | .breakDown _, _ | .goOn _, _ => []
  | .act step next, m =>
    ⟨true, m.time, m.state, (step m.time m.state).2⟩ ::
      (next (step m.time m.state).1).turnSteps jobs { m with state := (step m.time m.state).2 }
  | .wait ready deadline next, m =>
    if m.isOver ready deadline then next.turnSteps jobs m else []
  | .spawn own job next, m => (next m.nextNumber).turnSteps jobs (m.spawn jobs own job)

/-- The steps follow one another, and lead from one state to another. -/
def Leads : List (Step σ) → σ → σ → Prop
  | [], s, s' => s' = s
  | x :: xs, s, s' => x.before = s ∧ Leads xs x.after s'

theorem leads_append : Leads (xs ++ ys) s s' ↔ ∃ s₁, Leads xs s s₁ ∧ Leads ys s₁ s' := by
  induction xs generalizing s with
  | nil => simp [Leads]
  | cons x xs ih => simp [Leads, ih, and_assoc]

/-- What every step keeps to is kept to from the first state to the last one. -/
theorem Leads.chain {Q : σ → σ → Prop} (h : Leads xs s s') (hrefl : ∀ s, Q s s)
    (htrans : ∀ {a b c}, Q a b → Q b c → Q a c) (hxs : ∀ x ∈ xs, Q x.before x.after) : Q s s' := by
  induction xs generalizing s with
  | nil => exact h ▸ hrefl s
  | cons x xs ih =>
    obtain ⟨rfl, h⟩ := h
    obtain ⟨hx, hxs⟩ := List.forall_mem_cons.mp hxs
    exact htrans hx (ih h hxs)

/-- Where a step stands among the others. -/
theorem Leads.split (h : Leads xs s s') (hx : x ∈ xs) :
    ∃ l l', xs = l ++ x :: l' ∧ Leads l s x.before ∧ Leads l' x.after s' := by
  obtain ⟨l, l', rfl⟩ := List.append_of_mem hx
  obtain ⟨s₁, hl, rfl, hl'⟩ := leads_append.mp h
  exact ⟨l, l', rfl, hl, hl'⟩

/-- What comes to hold on the way comes to hold in one of the steps. -/
theorem Leads.crosses {P : σ → Prop} (h : Leads xs s s') (hs : ¬ P s) (hs' : P s') :
    ∃ x ∈ xs, ¬ P x.before ∧ P x.after := by
  induction xs generalizing s with
  | nil => exact absurd (h ▸ hs') hs
  | cons x xs ih =>
    obtain ⟨rfl, h⟩ := h
    by_cases hx : P x.after
    · exact ⟨x, List.mem_cons_self, hs, hx⟩
    · obtain ⟨y, hmem, hy⟩ := ih h hx
      exact ⟨y, List.mem_cons_of_mem x hmem, hy⟩

/-- Each step has the property after those before it. -/
def EachAfter (P : List (Step σ) → Step σ → Prop) (xs : List (Step σ)) : Prop :=
  ∀ l x l', xs = l ++ x :: l' → P l x

theorem EachAfter.append {P : List (Step σ) → Step σ → Prop} (hxs : EachAfter P xs)
    (hys : EachAfter P ys) (hP : ∀ earlier {l x}, P l x → P (earlier ++ l) x) :
    EachAfter P (xs ++ ys) := by
  intro l x l' heq
  rcases List.append_eq_append_iff.mp heq with ⟨l, rfl, hl⟩ | ⟨l, rfl, hl⟩
  · exact hP _ (hys l x l' hl)
  · cases l with
    | nil =>
      have hfirst : P [] x := hys [] x l' hl.symm
      simpa using hP l hfirst
    | cons y l =>
      obtain ⟨rfl, -⟩ := List.cons.inj hl
      exact hxs _ x _ rfl

theorem turnSteps_leads (p : Program σ ι α) (m : Machine σ ι ρ) :
    Leads (p.turnSteps jobs m) m.state (p.runTurn jobs m).2.state := by
  induction p generalizing m with
  | done | breakDown | goOn => rfl
  | act step next ih => exact ⟨rfl, ih _ { m with state := (step m.time m.state).2 }⟩
  | wait ready deadline next ih =>
    unfold turnSteps runTurn
    split
    · exact ih m
    · rfl
  | spawn own job next ih => exact ih m.nextNumber (m.spawn jobs own job)

/-! ## Turns of tasks -/

/-- Whatever becomes of the state until the wait is over, `R` then holds of the turns of the
program. -/
def Program.TurnsAfter (R : List (Step σ) → Prop) (ready : σ → Bool) (deadline : Option Nat)
    (time : Nat) (p : Program σ ι α) : Prop :=
  ∀ t s, time ≤ t → (ready s || deadline.any (· ≤ t)) = true → p.TurnsOn R t [] s

/-- `R` holds of the turns that the tasks of the machine will have. -/
def Machine.Turns (R : List (Step σ) → Prop) (m : Machine σ ι ρ) : Prop :=
  ∀ a ∈ m.tasks, a.next.TurnsAfter R a.ready a.deadline m.time

variable {m : Machine σ ι ρ} {a : Task σ ι ρ} {p : Program σ ι α}

theorem Program.Turns.after (h : p.Turns R) {ready : σ → Bool} {deadline : Option Nat} :
    p.TurnsAfter R ready deadline t :=
  fun t s _ _ => h t s

namespace Machine.Turns

theorem start (s : σ) : (Machine.start s : Machine σ ι ρ).Turns R :=
  fun _ ha => absurd ha List.not_mem_nil

theorem later (hm : m.Turns R) {time : Nat} (s : σ) (hle : m.time ≤ time) :
    Machine.Turns R { m with time := time, state := s } :=
  fun a ha t s hlater => hm a ha t s (Nat.le_trans hle hlater)

/-- One more task. -/
theorem snoc (hm : m.Turns R) (ha : a.next.TurnsAfter R a.ready a.deadline m.time) (next : Nat) :
    Machine.Turns R { m with tasks := m.tasks ++ [a], nextNumber := next } :=
  List.forall_mem_append.mpr ⟨hm, List.forall_mem_singleton.mpr ha⟩

theorem filter (hm : m.Turns R) (f : Task σ ι ρ → Bool) :
    Machine.Turns R { m with tasks := m.tasks.filter f } :=
  fun a ha => hm a (List.mem_of_mem_filter ha)

theorem renew (hm : m.Turns R) (hj : ∀ job, (jobs.program job).Turns R) (number : Nat) (job : ι) :
    (m.renewTask jobs number job).Turns R := by
  intro b hb
  obtain ⟨a, ha, rfl⟩ := List.mem_map.mp hb
  split
  · exact (hj job).after
  · exact hm a ha

/-- A turn of a program, which may have made some steps already. -/
theorem runTurn (hm : m.Turns R) (hR : Composes R) (hj : ∀ job, (jobs.program job).Turns R)
    (hp : p.TurnsOn R m.time xs m.state) :
    (p.runTurn jobs m).2.Turns R ∧ R (xs ++ p.turnSteps jobs m) ∧
      ∀ ready deadline next, (p.runTurn jobs m).1 = .waits ready deadline next →
        next.TurnsAfter R ready deadline (p.runTurn jobs m).2.time := by
  induction p generalizing m xs with
  | done | breakDown | goOn => exact ⟨hm, (List.append_nil xs).symm ▸ hp, nofun⟩
  | act step next ih =>
    obtain ⟨hm', hsteps, hrest⟩ :=
      ih _ (hm.later (step m.time m.state).2 (Nat.le_refl _)) hp
    rw [List.append_assoc] at hsteps
    exact ⟨hm', hsteps, hrest⟩
  | wait ready deadline next ih =>
    unfold Program.runTurn turnSteps
    split
    next hover =>
      obtain ⟨hm', hsteps, hrest⟩ := ih hm (hp.2 _ _ (Nat.le_refl _) hover)
      exact ⟨hm', hR.append hp.1 hsteps, hrest⟩
    next =>
      refine ⟨hm, (List.append_nil xs).symm ▸ hp.1, fun ready' deadline' next' hstop => ?_⟩
      cases hstop
      exact hp.2
  | spawn own job next ih => exact ih _ (hm.snoc (hj job).after _) (hp _)

/-- The turn of a task: its steps, the state they lead to, and what becomes of that when the
task has ended. -/
theorem runTask (hm : m.Turns R) (hR : Composes R) (hj : ∀ job, (jobs.program job).Turns R)
    (ha : a ∈ m.tasks) (hover : m.isOver a.ready a.deadline = true) :
    (m.runTask jobs a).Turns R ∧ R (a.next.turnSteps jobs m) ∧
      ∃ s, Leads (a.next.turnSteps jobs m) m.state s ∧ ((m.runTask jobs a).state = s ∨
        ∃ outcome, (m.runTask jobs a).state = jobs.finish a.number outcome s) := by
  obtain ⟨hm', hsteps, hwaits⟩ := hm.runTurn hR hj (hm a ha _ _ (Nat.le_refl _) hover)
  have hleads : Leads (a.next.turnSteps jobs m) _ _ := turnSteps_leads a.next m
  unfold Machine.runTask
  generalize a.next.runTurn jobs m = turn at hm' hwaits hleads
  obtain ⟨stop, m₁⟩ := turn
  cases stop with
  | done r => exact ⟨(hm'.filter _).later _ (Nat.le_refl _), hsteps, _, hleads, .inr ⟨_, rfl⟩⟩
  | brokeDown message =>
    exact ⟨(hm'.filter _).later _ (Nat.le_refl _), hsteps, _, hleads, .inr ⟨_, rfl⟩⟩
  | waits ready deadline next =>
    refine ⟨(hm'.filter _).snoc ?_ _, hsteps, _, hleads, .inl rfl⟩
    exact hwaits ready deadline next rfl
  | goesOn job => exact ⟨hm'.renew hj a.number job, hsteps, _, hleads, .inl rfl⟩

end Machine.Turns

end ExtensionHost
