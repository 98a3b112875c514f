import ExtensionHost.Proofs.Undisturbed

/-!
# Agreement of two programs

Two programs are compared that are not disturbed, each from a state of its own and at a time
of its own. They agree if both come to values that belong together, or if both break down, and
if the states belong together that they come to.
-/

namespace ExtensionHost

open Program

variable {σ ι α β γ δ : Type} {r : Except String α} {r' : Except String β}

/-! ## Ends that belong together -/

/-- Both have come to values that belong together, or both have broken down, in states that
belong together. -/
inductive BothEnd (Q : α → β → Prop) (B : Prop) : Except String α → Except String β → Prop where
  | values {a : α} {b : β} : Q a b → BothEnd Q B (.ok a) (.ok b)
  | broken {m m' : String} : B → BothEnd Q B (.error m) (.error m')

theorem BothEnd.mono {Q Q' : α → β → Prop} {B B' : Prop} (h : BothEnd Q B r r')
    (hQ : ∀ {a b}, Q a b → Q' a b) (hB : B → B') : BothEnd Q' B' r r' := by
  cases h with
  | values hab => exact .values (hQ hab)
  | broken hb => exact .broken (hB hb)

/-- From two states, whenever they are, the programs come to ends that belong together. -/
def Agree (p : Program σ ι α) (q : Program σ ι β) (s s' : σ) (Q : α → β → σ → σ → Prop)
    (B : σ → σ → Prop) : Prop :=
  ∀ ⦃t r u v t' r' u' v'⦄, p.Ends t s r u v → q.Ends t' s' r' u' v' →
    BothEnd (fun a b => Q a b v v') (B v v') r r'

/-! ## Rules -/

section Rules

variable {p : Program σ ι α} {q : Program σ ι β} {s s' : σ} {Q Q' : α → β → σ → σ → Prop}
variable {B : σ → σ → Prop}

theorem agree_mono (h : Agree p q s s' Q B) (hQ : ∀ {a b v v'}, Q a b v v' → Q' a b v v') :
    Agree p q s s' Q' B :=
  fun _ _ _ _ _ _ _ _ hends hends' => (h hends hends').mono hQ id

theorem agree_done {a : α} {b : β} (h : Q a b s s') :
    Agree (done a : Program σ ι α) (done b) s s' Q B := by
  intro t r u v t' r' u' v' hends hends'
  obtain ⟨rfl, -, rfl⟩ := ends_done.mp hends
  obtain ⟨rfl, -, rfl⟩ := ends_done.mp hends'
  exact .values h

theorem agree_breakDown {m m' : String} (h : B s s') :
    Agree (breakDown m : Program σ ι α) (breakDown m' : Program σ ι β) s s' Q B := by
  intro t r u v t' r' u' v' hends hends'
  obtain ⟨rfl, -, rfl⟩ := ends_breakDown.mp hends
  obtain ⟨rfl, -, rfl⟩ := ends_breakDown.mp hends'
  exact .broken h

/-- The steps may be made at different times. -/
theorem agree_act {step : Nat → σ → γ × σ} {step' : Nat → σ → δ × σ} {next : γ → Program σ ι α}
    {next' : δ → Program σ ι β}
    (h : ∀ t t', Agree (next (step t s).1) (next' (step' t' s').1) (step t s).2 (step' t' s').2
      Q B) :
    Agree (act step next) (act step' next') s s' Q B :=
  fun _ _ _ _ _ _ _ _ hends hends' => h _ _ (ends_act.mp hends) (ends_act.mp hends')

theorem agree_bind {k : α → Program σ ι γ} {l : β → Program σ ι δ} {Q' : γ → δ → σ → σ → Prop}
    (h : Agree p q s s' Q B) (hrest : ∀ {a b v v'}, Q a b v v' → Agree (k a) (l b) v v' Q' B) :
    Agree (p.bind k) (q.bind l) s s' Q' B := by
  intro t r u v t' r' u' v' hends hends'
  -- Both first programs break down, or neither does.
  rcases ends_bind.mp hends with ⟨a, t₁, s₁, hfirst, hsecond⟩ | ⟨m, rfl, hfirst⟩
  · rcases ends_bind.mp hends' with ⟨b, t₁', s₁', hfirst', hsecond'⟩ | ⟨m', -, hfirst'⟩
    · cases h hfirst hfirst' with
      | values hab => exact hrest hab hsecond hsecond'
    · cases h hfirst hfirst'
  · rcases ends_bind.mp hends' with ⟨b, t₁', s₁', hfirst', -⟩ | ⟨m', rfl, hfirst'⟩
    · cases h hfirst hfirst'
    · cases h hfirst hfirst' with
      | broken hb => exact .broken hb

theorem agree_sleep {ms ms' : Nat} {Q : Unit → Unit → σ → σ → Prop} (h : Q () () s s') :
    Agree (sleep ms : Program σ ι Unit) (sleep ms') s s' Q B := by
  intro t r u v t' r' u' v' hends hends'
  obtain ⟨rfl, -, rfl⟩ := ends_sleep.mp hends
  obtain ⟨rfl, -, rfl⟩ := ends_sleep.mp hends'
  exact .values h

/-- The same is done for each element of a list. -/
theorem agree_forEach {f : α → Program σ ι Unit} {I : σ → σ → Prop}
    (h : ∀ a {v v'}, I v v' → Agree (f a) (f a) v v' (fun _ _ => I) B) (as : List α)
    (hs : I s s') : Agree (forEach f as) (forEach f as) s s' (fun _ _ => I) B := by
  induction as generalizing s s' with
  | nil => exact agree_done hs
  | cons a as ih => exact agree_bind (h a hs) fun hv => ih hv

end Rules

end ExtensionHost
