import ExtensionHost.Proofs.Guarantee

/-!
# Programs that are not disturbed

What a program comes to when nobody else acts: how it ends, at which time and in
which state. A program whose waits all have deadlines cannot fail to end.
-/

namespace ExtensionHost.Program

variable {σ ι α β : Type}
variable {guar : Nat → σ → σ → Prop} {post : Nat → σ → Except String α → Prop}
variable {p q : Program σ ι α} {t u : Nat} {s s' : σ} {r : Except String α}
variable {steps : List (Step σ)}

/-! ## Ends -/

/-- Undisturbed, the program can come to an end: with a value or by breaking down,
at a time and in a state. -/
def Ends (p : Program σ ι α) (t : Nat) (s : σ) (r : Except String α) (u : Nat) (s' : σ) : Prop :=
  ∃ steps, p.Run Undisturbed t s steps (ended r) u s'

@[simp] theorem ends_done {a : α} :
    (done a : Program σ ι α).Ends t s r u s' ↔ r = .ok a ∧ u = t ∧ s' = s := by
  constructor
  · rintro ⟨steps, h⟩
    cases r <;> cases h
    exact ⟨rfl, rfl, rfl⟩
  · rintro ⟨rfl, rfl, rfl⟩
    exact ⟨[], .rest⟩

@[simp] theorem ends_breakDown {message : String} :
    (breakDown message : Program σ ι α).Ends t s r u s' ↔ r = .error message ∧ u = t ∧ s' = s := by
  constructor
  · rintro ⟨steps, h⟩
    cases r <;> cases h
    exact ⟨rfl, rfl, rfl⟩
  · rintro ⟨rfl, rfl, rfl⟩
    exact ⟨[], .rest⟩

@[simp] theorem ends_ofOutcome {outcome : Except String α} :
    (ofOutcome outcome : Program σ ι α).Ends t s r u s' ↔ r = outcome ∧ u = t ∧ s' = s := by
  cases outcome with
  | ok a => exact ends_done
  | error message => exact ends_breakDown

@[simp] theorem ends_act {step : Nat → σ → β × σ} {next : β → Program σ ι α} :
    (act step next).Ends t s r u s' ↔ (next (step t s).1).Ends t (step t s).2 r u s' := by
  constructor
  · rintro ⟨steps, h⟩
    cases r <;> cases h <;> exact ⟨_, ‹_›⟩
  · rintro ⟨steps, h⟩
    exact ⟨_, .act h⟩

theorem ends_wait {ready : σ → Bool} {deadline : Option Nat} :
    (wait ready deadline p).Ends t s r u s' ↔
      ∃ t₁, t ≤ t₁ ∧ (ready s || deadline.any (· ≤ t₁)) = true ∧ p.Ends t₁ s r u s' := by
  constructor
  · rintro ⟨steps, h⟩
    have h' : ∃ xs t₁ s₁ ys, Meanwhile Undisturbed t s xs t₁ s₁ ∧
        (ready s₁ || deadline.any (· ≤ t₁)) = true ∧
        p.Run Undisturbed t₁ s₁ ys (ended r) u s' := by
      cases r <;> cases h <;> exact ⟨_, _, _, _, ‹_›, ‹_›, ‹_›⟩
    obtain ⟨xs, t₁, s₁, ys, hm, hover, hnext⟩ := h'
    obtain ⟨rfl, rfl, hle⟩ := hm.of_undisturbed
    exact ⟨t₁, hle, hover, ys, hnext⟩
  · rintro ⟨t₁, hle, hover, steps, h⟩
    exact ⟨_, .wakes (.nothing hle) hover h⟩

theorem ends_spawn {own : Bool} {job : ι} {next : Nat → Program σ ι α} :
    (spawn own job next).Ends t s r u s' ↔ ∃ number, (next number).Ends t s r u s' := by
  constructor
  · rintro ⟨steps, h⟩
    cases r <;> cases h <;> exact ⟨_, _, ‹_›⟩
  · rintro ⟨number, steps, h⟩
    exact ⟨_, .spawn h⟩

/-- One program after another ends as the second one does, unless the first one
breaks down. -/
theorem ends_bind {k : α → Program σ ι β} {r : Except String β} :
    (p.bind k).Ends t s r u s' ↔
      (∃ a t₁ s₁, p.Ends t s (.ok a) t₁ s₁ ∧ (k a).Ends t₁ s₁ r u s') ∨
        ∃ message, r = .error message ∧ p.Ends t s (.error message) u s' := by
  constructor
  · rintro ⟨steps, h⟩
    obtain ⟨p', hq, hp', hp⟩ | ⟨a, xs, ys, t₁, s₁, rfl, h₁, h₂⟩ := h.of_bind
    · cases p' with
      | done a => exact absurd rfl (hp' a)
      | breakDown message =>
        cases r <;> cases hq
        exact .inr ⟨message, rfl, _, hp⟩
      | act | wait | spawn | goOn => cases r <;> cases hq
    · exact .inl ⟨a, t₁, s₁, ⟨xs, h₁⟩, ys, h₂⟩
  · rintro (⟨a, t₁, s₁, ⟨xs, h₁⟩, ys, h₂⟩ | ⟨message, rfl, xs, h⟩)
    · exact ⟨_, (h₁.bind k).trans h₂⟩
    · exact ⟨_, h.bind k⟩

/-- A value comes of the second program, and of the first one before it. -/
theorem ends_bind_ok {k : α → Program σ ι β} {b : β} :
    (p.bind k).Ends t s (.ok b) u s' ↔
      ∃ a t₁ s₁, p.Ends t s (.ok a) t₁ s₁ ∧ (k a).Ends t₁ s₁ (.ok b) u s' := by
  rw [ends_bind]
  exact or_iff_left fun ⟨_, hno, _⟩ => nomatch hno

@[simp] theorem ends_change {f : σ → σ} {r : Except String Unit} :
    (change f : Program σ ι Unit).Ends t s r u s' ↔ r = .ok () ∧ u = t ∧ s' = f s := by
  simp [change]

@[simp] theorem ends_changeAt {f : Nat → σ → σ} {r : Except String Unit} :
    (changeAt f : Program σ ι Unit).Ends t s r u s' ↔ r = .ok () ∧ u = t ∧ s' = f t s := by
  simp [changeAt]

@[simp] theorem ends_ask {f : σ → α} :
    (ask f : Program σ ι α).Ends t s r u s' ↔ r = .ok (f s) ∧ u = t ∧ s' = s := by
  simp [ask]

/-- What comes after a question goes on with the answer. -/
theorem ends_ask_bind {f : σ → β} {k : β → Program σ ι α} :
    ((ask f).bind k).Ends t s r u s' ↔ (k (f s)).Ends t s r u s' :=
  ends_act

@[simp] theorem ends_now {r : Except String Nat} :
    (now : Program σ ι Nat).Ends t s r u s' ↔ r = .ok t ∧ u = t ∧ s' = s := by
  simp [now]

theorem ends_sleepUntil {time : Nat} {r : Except String Unit} :
    (sleepUntil time : Program σ ι Unit).Ends t s r u s' ↔
      r = .ok () ∧ t ≤ u ∧ time ≤ u ∧ s' = s := by
  simp only [sleepUntil, ends_wait, ends_done, Bool.false_or, Option.any_some, decide_eq_true_eq]
  constructor
  · rintro ⟨t₁, hle, hover, rfl, rfl, rfl⟩
    exact ⟨rfl, hle, hover, rfl⟩
  · rintro ⟨rfl, hle, hover, rfl⟩
    exact ⟨u, hle, hover, rfl, rfl, rfl⟩

@[simp] theorem ends_sleep {ms : Nat} {r : Except String Unit} :
    (sleep ms : Program σ ι Unit).Ends t s r u s' ↔ r = .ok () ∧ t + ms ≤ u ∧ s' = s := by
  simp only [sleep, ends_act, ends_sleepUntil]
  constructor
  · rintro ⟨hr, -, hle, hs⟩
    exact ⟨hr, hle, hs⟩
  · rintro ⟨hr, hle, hs⟩
    exact ⟨hr, Nat.le_trans (Nat.le_add_right t ms) hle, hle, hs⟩

/-! ## Programs that end -/

/-- A program that waits for nothing but the time, and works by itself. -/
def IsTimed : Program σ ι α → Prop
  | done _ | breakDown _ => True
  | act _ next => ∀ b, (next b).IsTimed
  | wait _ deadline next => deadline.isSome ∧ next.IsTimed
  | spawn _ _ _ | goOn _ => False

theorem isTimed_bind {k : α → Program σ ι β} (hp : p.IsTimed) (hk : ∀ a, (k a).IsTimed) :
    (p.bind k).IsTimed := by
  induction p with
  | done a => exact hk a
  | breakDown message => exact trivial
  | act step next ih => exact fun b => ih b (hp b)
  | wait ready deadline next ih => exact ⟨hp.1, ih hp.2⟩
  | spawn | goOn => exact hp.elim

theorem isTimed_forEach {f : α → Program σ ι Unit} (h : ∀ a, (f a).IsTimed) :
    ∀ as : List α, (forEach f as).IsTimed
  | [] => trivial
  | a :: as => isTimed_bind (h a) fun _ => isTimed_forEach h as

theorem isTimed_sleep (ms : Nat) : (sleep ms : Program σ ι Unit).IsTimed :=
  fun _ => ⟨rfl, trivial⟩

/-- The run of a program that nobody disturbs and that is woken at its deadlines:
its steps, what is left of it, the time and the state. -/
def alone : Program σ ι α → Nat → σ → List (Step σ) × Program σ ι α × Nat × σ
  | act step next, t, s =>
    let run := (next (step t s).1).alone t (step t s).2
    (⟨true, t, s, (step t s).2⟩ :: run.1, run.2)
  | wait ready deadline next, t, s =>
    if ready s then next.alone t s
    -- Nobody is there to make the condition hold, so only the deadline can end the wait.
    else match deadline with
      | some d => next.alone (max t d) s
      | none => ([], wait ready none next, t, s)
  | p, t, s => ([], p, t, s)

theorem alone_run (p : Program σ ι α) (t : Nat) (s : σ) :
    p.Run Undisturbed t s (p.alone t s).1 (p.alone t s).2.1 (p.alone t s).2.2.1
      (p.alone t s).2.2.2 := by
  induction p generalizing t s with
  | done | breakDown | spawn | goOn => exact .rest
  | act step next ih => exact .act (ih _ t _)
  | wait ready deadline next ih =>
    unfold alone
    split
    · exact .wakes (.nothing (Nat.le_refl t)) (by simp [*]) (ih t s)
    · cases deadline with
      | some d =>
        have hover : (ready s || (some d).any (· ≤ max t d)) = true :=
          Bool.or_eq_true_iff.mpr (.inr (decide_eq_true (Nat.le_max_right t d)))
        exact .wakes (.nothing (Nat.le_max_left t d)) hover (ih _ s)
      | none => exact .rest

/-- Alone, of a program that waits for nothing but the time an end is left. -/
theorem IsTimed.alone_ended (hp : p.IsTimed) (t : Nat) (s : σ) :
    ∃ r, (p.alone t s).2.1 = ended r := by
  induction p generalizing t s with
  | done a => exact ⟨.ok a, rfl⟩
  | breakDown message => exact ⟨.error message, rfl⟩
  | act step next ih => exact ih _ (hp _) t _
  | wait ready deadline next ih =>
    obtain ⟨d, rfl⟩ := Option.isSome_iff_exists.mp hp.1
    unfold alone
    split
    · exact ih hp.2 t s
    · exact ih hp.2 _ s
  | spawn | goOn => exact hp.elim

/-- Alone, a program that waits for nothing but the time, to which every call of foreign code
adds only so much, comes to an end. -/
theorem IsTimed.alone_ends (hp : p.IsTimed) (t : Nat) (s : σ) :
    ∃ r, p.Ends t s r (p.alone t s).2.2.1 (p.alone t s).2.2.2 := by
  obtain ⟨r, hr⟩ := hp.alone_ended t s
  exact ⟨r, _, hr ▸ alone_run p t s⟩

theorem IsTimed.run {others : σ → σ → Prop} (hp : p.IsTimed)
    (hrun : p.Run others t s steps q u s') : q.IsTimed := by
  induction hrun with
  | rest | waits => exact hp
  | act _ ih => exact ih (hp _)
  | wakes _ _ _ ih => exact ih hp.2
  | spawn => exact hp.elim

/-- A program that waits for nothing but the time can be run on to a value, wherever it is,
if the rules show that it does not break down. -/
theorem IsTimed.run_on {rely others : σ → σ → Prop} {post : Nat → σ → α → Prop}
    (hp : p.IsTimed) (hc : Covers rely others)
    (hwp : p.wp rely guar (fun u s r => ∃ a, r = .ok a ∧ post u s a) t s)
    (hrun : p.Run others t s steps q u s') :
    ∃ more a v s'', q.Run others u s' more (done a) v s'' ∧ post v s'' a := by
  obtain ⟨-, hq⟩ := hrun.sound hc hwp
  obtain ⟨r, more, hends⟩ := (hp.run hrun).alone_ends u s'
  have hmore : q.Run others u s' more (ended r) _ _ := hends.mono fun _ _ => False.elim
  obtain ⟨-, hr⟩ := hmore.sound hc hq
  cases r with
  | ok a =>
    obtain ⟨_, ha, hpost⟩ := hr
    cases ha
    exact ⟨more, a, _, _, hmore, hpost⟩
  | error message =>
    obtain ⟨_, ha, -⟩ := hr
    cases ha

/-! ## What is preserved -/

/-- Undisturbed, the program preserves what holds of the state, also if it breaks down. -/
def Preserves (I : σ → Prop) (p : Program σ ι α) : Prop :=
  ∀ {t s r u s'}, I s → p.Ends t s r u s' → I s'

variable {I : σ → Prop}

theorem preserves_done (a : α) : (done a : Program σ ι α).Preserves I := by
  intro t s r u s' hs hends
  obtain ⟨-, -, rfl⟩ := ends_done.mp hends
  exact hs

theorem preserves_bind {k : α → Program σ ι β} (hp : p.Preserves I) (hk : ∀ a, (k a).Preserves I) :
    (p.bind k).Preserves I := by
  intro t s r u s' hs hends
  rcases ends_bind.mp hends with ⟨a, t₁, s₁, hfirst, hrest⟩ | ⟨message, -, hfirst⟩
  · exact hk a (hp hs hfirst) hrest
  · exact hp hs hfirst

/-! ## Results -/

/-- Whether a program has come to a success. -/
def hasSucceeded {ε : Type} : Program σ ι (Except ε Unit) → Bool
  | done (.ok _) => true
  | _ => false

theorem eq_done_of_hasSucceeded {ε : Type} {p : Program σ ι (Except ε Unit)}
    (h : p.hasSucceeded = true) : p = done (.ok ()) := by
  cases p with
  | done r =>
    cases r with
    | ok _ => rfl
    | error e => cases h
  | _ => cases h

/-- What a program has come to, if it has. -/
def value? : Program σ ι α → Option α
  | done a => some a
  | _ => none

theorem eq_done_of_value? {a : α} (h : p.value? = some a) : p = done a := by
  cases p with
  | done b =>
    cases h
    rfl
  | _ => cases h

/-- Alone, a program ends with what it has come to. -/
theorem ends_of_value? {a : α} (h : (p.alone t s).2.1.value? = some a) :
    p.Ends t s (.ok a) (p.alone t s).2.2.1 (p.alone t s).2.2.2 := by
  have hrun := alone_run p t s
  rw [eq_done_of_value? h] at hrun
  exact ⟨_, hrun⟩

/-- The message with which a program has broken down, if it has. -/
def message? : Program σ ι α → Option String
  | breakDown message => some message
  | _ => none

theorem eq_breakDown_of_message? {message : String} (h : p.message? = some message) :
    p = breakDown message := by
  cases p with
  | breakDown m =>
    cases h
    rfl
  | _ => cases h

theorem ends_of_message? {message : String} (h : (p.alone t s).2.1.message? = some message) :
    p.Ends t s (.error message) (p.alone t s).2.2.1 (p.alone t s).2.2.2 := by
  have hrun := alone_run p t s
  rw [eq_breakDown_of_message? h] at hrun
  exact ⟨_, hrun⟩

end ExtensionHost.Program
