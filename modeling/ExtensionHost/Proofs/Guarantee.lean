import ExtensionHost.Proofs.Run

/-!
# What programs guarantee

A program relies on what the others keep while it waits, and guarantees something
of each of its own steps in return. Both are relations between states. The rules
below follow the program; what they show holds of every run, also of one that
breaks off.
-/

namespace ExtensionHost

variable {σ ι α β : Type}

/-- `Covers rely others` says that `rely` holds after any number of changes by
`others`. -/
structure Covers (rely others : σ → σ → Prop) : Prop where
  refl : ∀ s, rely s s
  trans : ∀ {s s₁ s₂}, rely s s₁ → rely s₁ s₂ → rely s s₂
  change : ∀ {s s₁}, others s s₁ → rely s s₁

/-- Nothing need be known of the others. -/
theorem Covers.anything {others : σ → σ → Prop} : Covers (fun _ _ => True) others :=
  ⟨fun _ => trivial, fun _ _ => trivial, fun _ => trivial⟩

theorem Meanwhile.rely {rely others : σ → σ → Prop} {t u : Nat} {s s' : σ}
    {steps : List (Step σ)} (hc : Covers rely others) (h : Meanwhile others t s steps u s') :
    rely s s' :=
  h.chain hc.refl hc.trans fun x hx => hc.change (h.of_others x hx)

namespace Program

/-! ## Weakest preconditions -/

/-- From the time and the state, and as long as the others keep `rely`, every step
of the program is as `guar` says, and if it ends then `post` holds. -/
def wp (rely : σ → σ → Prop) (guar : Nat → σ → σ → Prop) (post : Nat → σ → Except String α → Prop) :
    Program σ ι α → Nat → σ → Prop
  | done a, t, s => post t s (.ok a)
  | breakDown message, t, s => post t s (.error message)
  | act step next, t, s =>
    guar t s (step t s).2 ∧ (next (step t s).1).wp rely guar post t (step t s).2
  | wait ready deadline next, t, s =>
    ∀ t₁ s₁, t ≤ t₁ → rely s s₁ → (ready s₁ || deadline.any (· ≤ t₁)) = true →
      next.wp rely guar post t₁ s₁
  | spawn _ _ next, t, s => ∀ number, (next number).wp rely guar post t s
  | goOn _, _, _ => True

variable {rely rely' others : σ → σ → Prop} {guar guar' : Nat → σ → σ → Prop}
variable {post post' : Nat → σ → Except String α → Prop}
variable {p q : Program σ ι α} {t u : Nat} {s s' : σ} {steps : List (Step σ)}

theorem wp_mono (h : p.wp rely guar post t s) (hrely : ∀ {s s'}, rely' s s' → rely s s')
    (hguar : ∀ {t s s'}, guar t s s' → guar' t s s')
    (hpost : ∀ {t s r}, post t s r → post' t s r) : p.wp rely' guar' post' t s := by
  induction p generalizing t s with
  | done a => exact hpost h
  | breakDown message => exact hpost h
  | act step next ih => exact ⟨hguar h.1, ih _ h.2⟩
  | wait ready deadline next ih =>
    exact fun t₁ s₁ hle hr hover => ih (h t₁ s₁ hle (hrely hr) hover)
  | spawn own job next ih => exact fun number => ih number (h number)
  | goOn job => exact trivial

/-- One program after another: the second one starts where the first one ends. -/
theorem wp_bind {k : α → Program σ ι β} {post : Nat → σ → Except String β → Prop}
    (h : p.wp rely guar (fun t s r => match r with
      | .ok a => (k a).wp rely guar post t s
      | .error message => post t s (.error message)) t s) :
    (p.bind k).wp rely guar post t s := by
  induction p generalizing t s with
  | done a => exact h
  | breakDown message => exact h
  | act step next ih => exact ⟨h.1, ih _ h.2⟩
  | wait ready deadline next ih => exact fun t₁ s₁ hle hr hover => ih (h t₁ s₁ hle hr hover)
  | spawn own job next ih => exact fun number => ih number (h number)
  | goOn job => exact trivial

theorem wp_and (h : p.wp rely guar post t s) (h' : p.wp rely guar' post' t s) :
    p.wp rely (fun t s s' => guar t s s' ∧ guar' t s s') (fun t s r => post t s r ∧ post' t s r)
      t s := by
  induction p generalizing t s with
  | done a => exact ⟨h, h'⟩
  | breakDown message => exact ⟨h, h'⟩
  | act step next ih => exact ⟨⟨h.1, h'.1⟩, ih _ h.2 h'.2⟩
  | wait ready deadline next ih =>
    exact fun t₁ s₁ hle hr hover => ih (h t₁ s₁ hle hr hover) (h' t₁ s₁ hle hr hover)
  | spawn own job next ih => exact fun number => ih number (h number) (h' number)
  | goOn job => exact trivial

/-- What the others and the program's own steps keep holds before every step and at the
end. -/
theorem wp_invariant {I : σ → Prop} (hrely : ∀ {s s'}, I s → rely s s' → I s')
    (hguar : ∀ {t s s'}, I s → guar t s s' → I s') (h : p.wp rely guar post t s) (hs : I s) :
    p.wp rely (fun t s s' => I s ∧ guar t s s') (fun t s r => I s ∧ post t s r) t s := by
  induction p generalizing t s with
  | done a => exact ⟨hs, h⟩
  | breakDown message => exact ⟨hs, h⟩
  | act step next ih => exact ⟨⟨hs, h.1⟩, ih _ h.2 (hguar hs h.1)⟩
  | wait ready deadline next ih =>
    exact fun t₁ s₁ hle hr hover => ih (h t₁ s₁ hle hr hover) (hrely hs hr)
  | spawn own job next ih => exact fun number => ih number (h number) hs
  | goOn job => exact trivial

/-- The rules are sound: what they show of a program holds in each of its runs, and
of what is left of it after the run. -/
theorem Run.sound (hc : Covers rely others) (h : Run others p t s steps q u s')
    (hp : p.wp rely guar post t s) :
    (∀ x ∈ steps, x.own = true → guar x.time x.before x.after) ∧ q.wp rely guar post u s' := by
  induction h with
  | rest => exact ⟨fun _ hx => absurd hx List.not_mem_nil, hp⟩
  | act _ ih =>
    obtain ⟨hsteps, hq⟩ := ih hp.2
    exact ⟨List.forall_mem_cons.mpr ⟨fun _ => hp.1, hsteps⟩, hq⟩
  | waits hm =>
    refine ⟨fun x hx hown => ?_, fun t₁ s₁ hle hr hover => ?_⟩
    · exact absurd hown (by simp [hm.not_own x hx])
    · -- The wait goes on from a later state, which the others have kept reliable.
      exact hp t₁ s₁ (Nat.le_trans hm.time_le hle) (hc.trans (hm.rely hc) hr) hover
  | wakes hm hover _ ih =>
    obtain ⟨hsteps, hq⟩ := ih (hp _ _ hm.time_le (hm.rely hc) hover)
    refine ⟨fun x hx hown => ?_, hq⟩
    obtain hx | hx := List.mem_append.mp hx
    · exact absurd hown (by simp [hm.not_own x hx])
    · exact hsteps x hx hown
  | spawn _ ih => exact ih (hp _)

/-! ## Guarantees without conditions -/

/-- Every step of the program is as `guar` says, whatever the others do and
wherever the program is run. -/
def Does (guar : Nat → σ → σ → Prop) (p : Program σ ι α) : Prop :=
  ∀ t s, p.wp (fun _ _ => True) guar (fun _ _ _ => True) t s

theorem does_done (a : α) : (done a : Program σ ι α).Does guar :=
  fun _ _ => trivial

theorem does_breakDown (message : String) : (breakDown message : Program σ ι α).Does guar :=
  fun _ _ => trivial

theorem does_act {step : Nat → σ → β × σ} {next : β → Program σ ι α}
    (hstep : ∀ t s, guar t s (step t s).2) (hnext : ∀ b, (next b).Does guar) :
    (act step next).Does guar :=
  fun t s => ⟨hstep t s, hnext _ t _⟩

theorem does_wait {ready : σ → Bool} {deadline : Option Nat} (h : p.Does guar) :
    (wait ready deadline p).Does guar :=
  fun _ _ t₁ s₁ _ _ _ => h t₁ s₁

theorem does_spawn {own : Bool} {job : ι} {next : Nat → Program σ ι α}
    (h : ∀ number, (next number).Does guar) : (spawn own job next).Does guar :=
  fun t s number => h number t s

theorem does_bind {k : α → Program σ ι β} (hp : p.Does guar) (hk : ∀ a, (k a).Does guar) :
    (p.bind k).Does guar := by
  intro t s
  refine wp_bind (wp_mono (hp t s) id id fun {t s r} _ => ?_)
  cases r with
  | ok a => exact hk a t s
  | error message => exact trivial

theorem does_change {f : σ → σ} (h : ∀ t s, guar t s (f s)) :
    (change f : Program σ ι Unit).Does guar :=
  does_act h does_done

theorem does_changeAt {f : Nat → σ → σ} (h : ∀ t s, guar t s (f t s)) :
    (changeAt f : Program σ ι Unit).Does guar :=
  does_act h does_done

theorem does_ask {f : σ → α} (h : ∀ t s, guar t s s) : (ask f : Program σ ι α).Does guar :=
  does_act h does_done

theorem does_now (h : ∀ t s, guar t s s) : (now : Program σ ι Nat).Does guar :=
  does_act h does_done

theorem does_sleepUntil (time : Nat) : (sleepUntil time : Program σ ι Unit).Does guar :=
  does_wait (does_done ())

theorem does_sleep {ms : Nat} (h : ∀ t s, guar t s s) : (sleep ms : Program σ ι Unit).Does guar :=
  does_act h does_sleepUntil

theorem does_forEach {f : α → Program σ ι Unit} (h : ∀ a, (f a).Does guar) :
    ∀ as : List α, (forEach f as).Does guar
  | [] => does_done ()
  | a :: as => does_bind (h a) fun _ => does_forEach h as

theorem Does.mono (h : p.Does guar) (hguar : ∀ {t s s'}, guar t s s' → guar' t s s') :
    p.Does guar' :=
  fun t s => wp_mono (h t s) id hguar id

/-- Every own step of a run is as the program guarantees. -/
theorem Does.own (h : p.Does guar) (hrun : Run others p t s steps q u s') :
    ∀ x ∈ steps, x.own = true → guar x.time x.before x.after :=
  (hrun.sound Covers.anything (h t s)).1

/-- The guarantee is one of the rules, under any condition. -/
theorem Does.wp (h : p.Does guar) : p.wp rely guar (fun _ _ _ => True) t s :=
  wp_mono (h t s) (fun _ => trivial) id id

end Program

end ExtensionHost
