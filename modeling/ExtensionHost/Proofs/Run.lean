import ExtensionHost.Program

/-!
# Runs of programs

A run is what a program does to the state it shares with others, step by step.
The others act only while the program waits, and a run may break off anywhere. The
schedule of a machine is one way to run a program; here every way counts, with
time passing as it likes.
-/

namespace ExtensionHost

variable {σ ι α β : Type}

/-! ## Steps -/

/-- A step of a run: whether the program made it or others did, the time, and the
state before and after. -/
structure Step (σ : Type) where
  own : Bool
  time : Nat
  before : σ
  after : σ

/-- `Meanwhile others t s steps u s'` says that the others, if they change the state
only as `others` has it, can make `steps` from the time `t` and the state `s` on,
and that it is `u` then, and the state `s'`. -/
inductive Meanwhile (others : σ → σ → Prop) : Nat → σ → List (Step σ) → Nat → σ → Prop where
  | nothing {t u s} : t ≤ u → Meanwhile others t s [] u s
  | change {t t₁ u s s₁ s' steps} : t ≤ t₁ → others s s₁ → Meanwhile others t₁ s₁ steps u s' →
      Meanwhile others t s (⟨false, t₁, s, s₁⟩ :: steps) u s'

namespace Meanwhile

variable {others others' : σ → σ → Prop} {t u v : Nat} {s s' s'' : σ}
variable {steps xs ys : List (Step σ)}

theorem trans (h : Meanwhile others t s xs u s') (h' : Meanwhile others u s' ys v s'') :
    Meanwhile others t s (xs ++ ys) v s'' := by
  induction h with
  | nothing hle =>
    cases h' with
    | nothing hle' => exact .nothing (Nat.le_trans hle hle')
    | change hle' ho h' => exact .change (Nat.le_trans hle hle') ho h'
  | change hle ho _ ih => exact .change hle ho (ih h')

theorem split (h : Meanwhile others t s (xs ++ ys) v s'') :
    ∃ u s', Meanwhile others t s xs u s' ∧ Meanwhile others u s' ys v s'' := by
  induction xs generalizing t s with
  | nil => exact ⟨t, s, .nothing (Nat.le_refl t), h⟩
  | cons x xs ih =>
    cases h with
    | change hle ho h =>
      obtain ⟨u, s', h₁, h₂⟩ := ih h
      exact ⟨u, s', .change hle ho h₁, h₂⟩

theorem not_own (h : Meanwhile others t s steps u s') : ∀ x ∈ steps, x.own = false := by
  induction h with
  | nothing => exact fun _ hx => absurd hx List.not_mem_nil
  | change _ _ _ ih => exact List.forall_mem_cons.mpr ⟨rfl, ih⟩

theorem restrict (h : Meanwhile others t s steps u s')
    (hsteps : ∀ x ∈ steps, others x.before x.after → others' x.before x.after) :
    Meanwhile others' t s steps u s' := by
  induction h with
  | nothing hle => exact .nothing hle
  | change hle ho _ ih =>
    obtain ⟨hx, hsteps⟩ := List.forall_mem_cons.mp hsteps
    exact .change hle (hx ho) (ih hsteps)

theorem time_le (h : Meanwhile others t s steps u s') : t ≤ u := by
  induction h with
  | nothing hle => exact hle
  | change hle _ _ ih => exact Nat.le_trans hle ih

theorem of_others (h : Meanwhile others t s steps u s') :
    ∀ x ∈ steps, others x.before x.after := by
  induction h with
  | nothing => exact fun _ hx => absurd hx List.not_mem_nil
  | change _ ho _ ih => exact List.forall_mem_cons.mpr ⟨ho, ih⟩

theorem chain {R : σ → σ → Prop} (hrefl : ∀ s, R s s) (htrans : ∀ {a b c}, R a b → R b c → R a c)
    (h : Meanwhile others t s steps u s') (hsteps : ∀ x ∈ steps, R x.before x.after) : R s s' := by
  induction h with
  | nothing => exact hrefl _
  | change _ _ _ ih =>
    obtain ⟨hx, hsteps⟩ := List.forall_mem_cons.mp hsteps
    exact htrans hx (ih hsteps)

end Meanwhile

/-- The others do nothing at all. -/
def Undisturbed (_ _ : σ) : Prop := False

/-- Without others nothing but time passes. -/
theorem Meanwhile.of_undisturbed {t u : Nat} {s s' : σ} {steps : List (Step σ)}
    (h : Meanwhile Undisturbed t s steps u s') : steps = [] ∧ s' = s ∧ t ≤ u := by
  cases h with
  | nothing hle => exact ⟨rfl, rfl, hle⟩
  | change _ ho => exact ho.elim

namespace Program

/-! ## Runs -/

/-- A program with something after it has not ended before it has itself. -/
theorem bind_ne_done {p : Program σ ι α} {k : α → Program σ ι β} (hp : ∀ a, p ≠ done a) (b : β) :
    p.bind k ≠ done b := by
  cases p with
  | done a => exact absurd rfl (hp a)
  | _ => exact nofun

/-- A program that has ended, with a value or by breaking down. -/
def ended : Except String α → Program σ ι α
  | .ok a => done a
  | .error message => breakDown message

/-- `Run others p t s steps q u s'` says that `p`, from the time `t` and the state
`s`, can make `steps` while others change the state by `others`, and what is left
of it then is `q`, at the time `u` and in the state `s'`. -/
inductive Run (others : σ → σ → Prop) :
    Program σ ι α → Nat → σ → List (Step σ) → Program σ ι α → Nat → σ → Prop where
  | rest {p : Program σ ι α} {t s} : Run others p t s [] p t s
  | act {β : Type} {step : Nat → σ → β × σ} {next : β → Program σ ι α} {t s steps q u s'} :
      Run others (next (step t s).1) t (step t s).2 steps q u s' →
      Run others (.act step next) t s (⟨true, t, s, (step t s).2⟩ :: steps) q u s'
  | waits {ready deadline} {next : Program σ ι α} {t s steps u s'} :
      Meanwhile others t s steps u s' →
      Run others (.wait ready deadline next) t s steps (.wait ready deadline next) u s'
  | wakes {ready deadline} {next : Program σ ι α} {t s xs t₁ s₁ ys q u s'} :
      Meanwhile others t s xs t₁ s₁ → (ready s₁ || deadline.any (· ≤ t₁)) = true →
      Run others next t₁ s₁ ys q u s' →
      Run others (.wait ready deadline next) t s (xs ++ ys) q u s'
  | spawn {own job} {next : Nat → Program σ ι α} {number t s steps q u s'} :
      Run others (next number) t s steps q u s' →
      Run others (.spawn own job next) t s steps q u s'

namespace Run

variable {others others' : σ → σ → Prop} {p q r : Program σ ι α} {t u v : Nat}
variable {s s' s'' : σ} {steps xs ys : List (Step σ)}

theorem trans (h : Run others p t s xs q u s') (h' : Run others q u s' ys r v s'') :
    Run others p t s (xs ++ ys) r v s'' := by
  induction h with
  | rest => exact h'
  | act _ ih => exact .act (ih h')
  | waits hm =>
    cases h' with
    | rest => simpa using .waits hm
    | waits hm' => exact .waits (hm.trans hm')
    | wakes hm' hover h =>
      rw [← List.append_assoc]
      exact .wakes (hm.trans hm') hover h
  | wakes hm hover _ ih =>
    rw [List.append_assoc]
    exact .wakes hm hover (ih h')
  | spawn _ ih => exact .spawn (ih h')

/-- A run can be broken off after any of its steps. -/
theorem split (h : Run others p t s steps r v s'') (hsteps : steps = xs ++ ys) :
    ∃ q u s', Run others p t s xs q u s' ∧ Run others q u s' ys r v s'' := by
  induction h generalizing xs with
  | rest =>
    obtain ⟨rfl, rfl⟩ := List.append_eq_nil_iff.mp hsteps.symm
    exact ⟨_, _, _, .rest, .rest⟩
  | act h ih =>
    obtain ⟨rfl, rfl⟩ | ⟨xs', rfl, htail⟩ := List.cons_eq_append_iff.mp hsteps
    · exact ⟨_, _, _, .rest, .act h⟩
    · obtain ⟨q, u, s', h₁, h₂⟩ := ih htail
      exact ⟨q, u, s', .act h₁, h₂⟩
  | waits hm =>
    subst hsteps
    obtain ⟨u, s', h₁, h₂⟩ := hm.split
    exact ⟨_, u, s', .waits h₁, .waits h₂⟩
  | wakes hm hover h ih =>
    -- It breaks off after the wait, or while the program still waits.
    obtain ⟨zs, rfl, hys⟩ | ⟨zs, rfl, rfl⟩ := List.append_eq_append_iff.mp hsteps
    · obtain ⟨q, u, s', h₁, h₂⟩ := ih hys
      exact ⟨q, u, s', .wakes hm hover h₁, h₂⟩
    · obtain ⟨u, s', h₁, h₂⟩ := hm.split
      exact ⟨_, u, s', .waits h₁, .wakes h₂ hover h⟩
  | spawn _ ih =>
    obtain ⟨q, u, s', h₁, h₂⟩ := ih hsteps
    exact ⟨q, u, s', .spawn h₁, h₂⟩

/-- The run of a program is also one of the program with something after it. -/
theorem bind (h : Run others p t s steps q u s') (k : α → Program σ ι β) :
    Run others (p.bind k) t s steps (q.bind k) u s' := by
  induction h with
  | rest => exact .rest
  | act _ ih => exact .act ih
  | waits hm => exact .waits hm
  | wakes hm hover _ ih => exact .wakes hm hover ih
  | spawn _ ih => exact .spawn ih

/-- A run of one program after another is still in the first one, or the first one
has ended with a value. -/
theorem of_bind {k : α → Program σ ι β} {q : Program σ ι β}
    (h : Run others (p.bind k) t s steps q u s') :
    (∃ p', q = p'.bind k ∧ (∀ a, p' ≠ .done a) ∧ Run others p t s steps p' u s') ∨
      ∃ a xs ys t₁ s₁, steps = xs ++ ys ∧ Run others p t s xs (.done a) t₁ s₁ ∧
        Run others (k a) t₁ s₁ ys q u s' := by
  -- The first program decides what can come next, so the induction is on it and not on
  -- the run.
  induction p generalizing t s steps with
  | done a => exact .inr ⟨a, [], steps, t, s, rfl, .rest, h⟩
  | breakDown message => cases h; exact .inl ⟨.breakDown message, rfl, nofun, .rest⟩
  | goOn job => cases h; exact .inl ⟨.goOn job, rfl, nofun, .rest⟩
  | act step next ih =>
    cases h with
    | rest => exact .inl ⟨.act step next, rfl, nofun, .rest⟩
    | act h =>
      obtain ⟨p', hq, hp', h⟩ | ⟨a, xs, ys, t₁, s₁, rfl, h₁, h₂⟩ := ih _ h
      · exact .inl ⟨p', hq, hp', .act h⟩
      · exact .inr ⟨a, _ :: xs, ys, t₁, s₁, rfl, .act h₁, h₂⟩
  | wait ready deadline next ih =>
    cases h with
    | rest => exact .inl ⟨.wait ready deadline next, rfl, nofun, .rest⟩
    | waits hm => exact .inl ⟨.wait ready deadline next, rfl, nofun, .waits hm⟩
    | wakes hm hover h =>
      obtain ⟨p', hq, hp', h⟩ | ⟨a, xs, ys, t₁, s₁, rfl, h₁, h₂⟩ := ih h
      · exact .inl ⟨p', hq, hp', .wakes hm hover h⟩
      · exact .inr ⟨a, _, ys, t₁, s₁, (List.append_assoc _ _ _).symm, .wakes hm hover h₁, h₂⟩
  | spawn own job next ih =>
    cases h with
    | rest => exact .inl ⟨.spawn own job next, rfl, nofun, .rest⟩
    | spawn h =>
      obtain ⟨p', hq, hp', h⟩ | ⟨a, xs, ys, t₁, s₁, hsteps, h₁, h₂⟩ := ih _ h
      · exact .inl ⟨p', hq, hp', .spawn h⟩
      · exact .inr ⟨a, xs, ys, t₁, s₁, hsteps, .spawn h₁, h₂⟩

theorem of_bind_done {k : α → Program σ ι β} {b : β}
    (h : Run others (p.bind k) t s steps (.done b) u s') :
    ∃ a xs ys t₁ s₁, steps = xs ++ ys ∧ Run others p t s xs (.done a) t₁ s₁ ∧
      Run others (k a) t₁ s₁ ys (.done b) u s' := by
  obtain ⟨p', hq, hp', -⟩ | hboth := h.of_bind
  · exact absurd hq.symm (bind_ne_done hp' b)
  · exact hboth

/-! ## Steps of the others -/

/-- What the others did in a run is all that has to be known of them. -/
theorem restrict (h : Run others p t s steps q u s')
    (hsteps : ∀ x ∈ steps, x.own = false → others x.before x.after →
      others' x.before x.after) :
    Run others' p t s steps q u s' := by
  induction h with
  | rest => exact .rest
  | act _ ih => exact .act (ih fun x hx => hsteps x (List.mem_cons_of_mem _ hx))
  | waits hm => exact .waits (hm.restrict fun x hx => hsteps x hx (hm.not_own x hx))
  | wakes hm hover _ ih =>
    refine .wakes (hm.restrict fun x hx => hsteps x ?_ (hm.not_own x hx)) hover
      (ih fun x hx => hsteps x ?_)
    · exact List.mem_append_left _ hx
    · exact List.mem_append_right _ hx
  | spawn _ ih => exact .spawn (ih hsteps)

theorem mono (h : Run others p t s steps q u s') (hle : ∀ s s', others s s' → others' s s') :
    Run others' p t s steps q u s' :=
  h.restrict fun _ _ _ ho => hle _ _ ho

theorem of_others (h : Run others p t s steps q u s') :
    ∀ x ∈ steps, x.own = false → others x.before x.after := by
  induction h with
  | rest => exact fun _ hx => absurd hx List.not_mem_nil
  | act _ ih => exact List.forall_mem_cons.mpr ⟨nofun, ih⟩
  | waits hm => exact fun x hx _ => hm.of_others x hx
  | wakes hm _ _ ih =>
    exact List.forall_mem_append.mpr ⟨fun x hx _ => hm.of_others x hx, ih⟩
  | spawn _ ih => exact ih

/-- What every step of a run keeps to is kept to from its start to its end. -/
theorem chain {R : σ → σ → Prop} (hrefl : ∀ s, R s s) (htrans : ∀ {a b c}, R a b → R b c → R a c)
    (h : Run others p t s steps q u s') (hsteps : ∀ x ∈ steps, R x.before x.after) : R s s' := by
  induction h with
  | rest => exact hrefl _
  | act _ ih =>
    obtain ⟨hx, hsteps⟩ := List.forall_mem_cons.mp hsteps
    exact htrans hx (ih hsteps)
  | waits hm => exact hm.chain hrefl htrans hsteps
  | wakes hm _ _ ih =>
    obtain ⟨hxs, hys⟩ := List.forall_mem_append.mp hsteps
    exact htrans (hm.chain hrefl htrans hxs) (ih hys)
  | spawn _ ih => exact ih hsteps

/-- A run that is not disturbed has only steps of its own. -/
theorem own (h : Run Undisturbed p t s steps q u s') : ∀ x ∈ steps, x.own = true := by
  induction h with
  | rest => exact fun _ hx => absurd hx List.not_mem_nil
  | act _ ih => exact List.forall_mem_cons.mpr ⟨rfl, ih⟩
  | waits hm =>
    obtain ⟨rfl, -⟩ := hm.of_undisturbed
    exact fun _ hx => absurd hx List.not_mem_nil
  | wakes hm _ _ ih =>
    obtain ⟨rfl, -⟩ := hm.of_undisturbed
    exact ih
  | spawn _ ih => exact ih

theorem of_act {step : Nat → σ → β × σ} {next : β → Program σ ι α}
    (h : Run others (.act step next) t s steps q u s') :
    (steps = [] ∧ q = .act step next ∧ u = t ∧ s' = s) ∨
      ∃ rest, steps = ⟨true, t, s, (step t s).2⟩ :: rest ∧
        Run others (next (step t s).1) t (step t s).2 rest q u s' := by
  cases h with
  | rest => exact .inl ⟨rfl, rfl, rfl, rfl⟩
  | act h => exact .inr ⟨_, rfl, h⟩

theorem of_done {a : α} (h : Run others (.done a) t s steps q u s') :
    steps = [] ∧ q = .done a ∧ u = t ∧ s' = s := by
  cases h
  exact ⟨rfl, rfl, rfl, rfl⟩

/-- A program that has come to its end has made its first step. -/
theorem of_act_done {step : Nat → σ → β × σ} {next : β → Program σ ι α} {a : α}
    (h : Run others (.act step next) t s steps (.done a) u s') :
    ∃ rest, steps = ⟨true, t, s, (step t s).2⟩ :: rest ∧
      Run others (next (step t s).1) t (step t s).2 rest (.done a) u s' := by
  obtain ⟨-, hno, -⟩ | hrest := h.of_act
  · cases hno
  · exact hrest

/-- What comes after a question has come to its end with the answer. -/
theorem of_ask_bind_done {f : σ → β} {k : β → Program σ ι α} {a : α}
    (h : Run others ((ask f).bind k) t s steps (.done a) u s') :
    ∃ rest, steps = ⟨true, t, s, s⟩ :: rest ∧ Run others (k (f s)) t s rest (.done a) u s' :=
  of_act_done h

theorem before_head {x : Step σ} (h : Run others p t s (x :: steps) q u s') : x.before = s := by
  -- A wait may end without any step of the others, so the head can come from further on.
  generalize hx : x :: steps = all at h
  induction h with
  | rest => cases hx
  | act => cases hx; rfl
  | waits hm => cases hm <;> cases hx; rfl
  | wakes hm _ _ ih =>
    cases hm with
    | nothing => exact ih hx
    | change => cases hx; rfl
  | spawn _ ih => exact ih hx

end Run

/-! ## Reaching a step -/

/-- In a run of the program the steps `pre` can be made first, and `x` next. -/
def Reaches (others : σ → σ → Prop) (p : Program σ ι α) (t : Nat) (s : σ) (pre : List (Step σ))
    (x : Step σ) : Prop :=
  ∃ q u s', Run others p t s (pre ++ [x]) q u s'

section Reaches

variable {others : σ → σ → Prop} {p q : Program σ ι α} {t u : Nat} {s s' : σ}
variable {steps pre post : List (Step σ)} {x : Step σ}

theorem Run.reaches (h : Run others p t s steps q u s') (hsteps : steps = pre ++ x :: post) :
    p.Reaches others t s pre x := by
  obtain ⟨q, u, s', h, -⟩ := h.split (hsteps.trans (List.append_cons pre x post))
  exact ⟨q, u, s', h⟩

/-- A step starts in the state that the steps before it lead to. -/
theorem Reaches.run (h : p.Reaches others t s pre x) :
    ∃ q u, Run others p t s pre q u x.before := by
  obtain ⟨r, v, s'', h⟩ := h
  obtain ⟨q, u, s', hpre, hx⟩ := h.split rfl
  exact ⟨q, u, hx.before_head ▸ hpre⟩

theorem Reaches.of_act {step : Nat → σ → β × σ} {next : β → Program σ ι α}
    (h : (act step next).Reaches others t s pre x) :
    (pre = [] ∧ x = ⟨true, t, s, (step t s).2⟩) ∨
      ∃ pre', pre = ⟨true, t, s, (step t s).2⟩ :: pre' ∧
        (next (step t s).1).Reaches others t (step t s).2 pre' x := by
  obtain ⟨q, u, s', h⟩ := h
  obtain ⟨hnil, -⟩ | ⟨rest, hsteps, h⟩ := h.of_act
  · simp at hnil
  · cases pre with
    | nil =>
      obtain ⟨rfl, -⟩ := List.cons_eq_cons.mp hsteps
      exact .inl ⟨rfl, rfl⟩
    | cons y pre =>
      obtain ⟨rfl, rfl⟩ := List.cons_eq_cons.mp hsteps
      exact .inr ⟨pre, rfl, q, u, s', h⟩

/-- A step of one program after another is one of the first program, or the first one
has ended with a value and the step is one of the second. -/
theorem Reaches.of_bind {k : α → Program σ ι β} (h : (p.bind k).Reaches others t s pre x) :
    p.Reaches others t s pre x ∨
      ∃ a xs pre' t₁ s₁, pre = xs ++ pre' ∧ Run others p t s xs (.done a) t₁ s₁ ∧
        (k a).Reaches others t₁ s₁ pre' x := by
  obtain ⟨q, u, s', h⟩ := h
  obtain ⟨p', -, -, h⟩ | ⟨a, xs, ys, t₁, s₁, hsteps, h₁, h₂⟩ := h.of_bind
  · exact .inl ⟨p', u, s', h⟩
  · -- The step is the last of all, so it is the second program's if that has made any.
    obtain rfl | ⟨ys', y, rfl⟩ := ys.eq_nil_or_concat
    · exact .inl ⟨_, t₁, s₁, by simpa [hsteps] using h₁⟩
    · rw [List.concat_eq_append, ← List.append_assoc] at hsteps
      obtain ⟨rfl, hx⟩ := List.append_inj' hsteps rfl
      cases hx
      exact .inr ⟨a, xs, ys', t₁, s₁, rfl, h₁, q, u, s', by simpa using h₂⟩

end Reaches

end Program

end ExtensionHost
