import ExtensionHost.Proofs.Alike
import ExtensionHost.Proofs.Departure
import ExtensionHost.Proofs.UpdateEnding

/-!
# The course of events

Events that are handled one after another, each undisturbed and to its end, with whatever
happens to the host in between. And what an event leaves in the history that concerns its
own end: that the registration is taken out, that the instance is told to clean up, and the
runs of the cleanup hooks.
-/

namespace ExtensionHost

open Program

variable {α β : Type} {t u n : Nat} {h h' k : Host} {d : Descriptor} {i : Instance} {id : String}

/-! ## Events one after another -/

/-- An event that has been handled: on which host, what came of it, and the host then. -/
structure Handling where
  event : Event
  start : Nat
  before : Host
  result : Except String (Except HostError Unit)
  after : Host

/-- Nobody has disturbed the event, from its start to its end. -/
def Handling.IsRun (x : Handling) : Prop :=
  ∃ u, (handle x.event).Ends x.start x.before x.result u x.after

/-- From the one host to the other these events have been handled, one after another, where
`between` says what may happen to a host between them. -/
def Host.Course (between : Host → Host → Prop) : Host → List Handling → Host → Prop
  | h, [], h' => between h h'
  | h, x :: xs, h' => between h x.before ∧ x.IsRun ∧ Host.Course between x.after xs h'

theorem Handling.IsRun.sound {x : Handling} (hx : x.IsRun) (hs : x.before.Sound) :
    x.after.Sound := by
  obtain ⟨u, steps, hrun⟩ := hx
  exact ((handle_keepsHost _).later hrun).sound hs

/-- Every event comes to an end if nobody disturbs it, and every call of foreign code returns or
breaks down. -/
theorem handle_comes_to_end (e : Event) (t : Nat) (h : Host) :
    ∃ r h', Handling.IsRun ⟨e, t, h, r, h'⟩ := by
  obtain ⟨r, hends⟩ := (handle_works e).timed.alone_ends t h
  exact ⟨r, _, _, hends⟩

namespace Host.Course

variable {xs ys : List Handling}

/-- What one event preserves, and what may happen in between, a course of events preserves. -/
theorem preserves {between : Host → Host → Prop} {I : Host → Prop}
    (hbetween : ∀ {a b}, between a b → I a → I b)
    (hevent : ∀ x ∈ xs, x.IsRun → I x.before → I x.after)
    (hc : Host.Course between h xs h') (hI : I h) : (∀ x ∈ xs, x.IsRun ∧ I x.before) ∧ I h' := by
  induction xs generalizing h with
  | nil => exact ⟨List.forall_mem_nil _, hbetween hc hI⟩
  | cons x xs ih =>
    obtain ⟨hb, hx, hrest⟩ := hc
    have hbefore : I x.before := hbetween hb hI
    have hafter : I x.after := hevent x List.mem_cons_self hx hbefore
    obtain ⟨hall, hend⟩ := ih (fun y hy => hevent y (List.mem_cons_of_mem x hy)) hrest hafter
    exact ⟨List.forall_mem_cons.mpr ⟨⟨hx, hbefore⟩, hall⟩, hend⟩

theorem sound (hc : Host.Course Host.Idled h xs h') (hs : h.Sound) :
    (∀ x ∈ xs, x.IsRun ∧ x.before.Sound) ∧ h'.Sound :=
  hc.preserves (fun hidled hs => hidled.later.sound hs) (fun _ _ hx hs => hx.sound hs) hs

/-- A course up to an event. -/
theorem of_append {between : Host → Host → Prop} (hrefl : ∀ a, between a a)
    (hc : Host.Course between h (xs ++ ys) h') :
    ∃ g, Host.Course between h xs g ∧ Host.Course between g ys h' := by
  induction xs generalizing h with
  | nil => exact ⟨h, hrefl h, hc⟩
  | cons x xs ih =>
    obtain ⟨hb, hx, hrest⟩ := hc
    obtain ⟨g, hfirst, hlast⟩ := ih hrest
    exact ⟨g, ⟨hb, hx, hfirst⟩, hlast⟩

end Host.Course

/-! ## Marks -/

/-- Whether something is about the end of a registration: it is taken out, an instance is
told to clean up, or a cleanup hook is run. -/
def Happening.isMark : Happening → Bool
  | .unregistered _ _ | .called _ (.cleanup _) | .hookRun _ _ _ => true
  | _ => false

/-- The marks in the history of a host, the first one first. -/
def Host.marks (h : Host) : List Happening :=
  h.past.filter (·.isMark)

/-- The marks that an event has left. -/
def Handling.marks (x : Handling) : List Happening :=
  (x.after.since x.before).filter (·.isMark)

/-- The runs of all cleanup hooks of the host, in the order they were added. -/
def Host.hookRuns (h : Host) (id : String) (phase : CleanupPhase) : List Happening :=
  h.hooks.map fun hook => .hookRun hook.name id phase

/-- Whether a deed leaves no marks. -/
def Deed.IsUnmarked (d : Deed) : Prop :=
  ∀ w, d.Leaves w → w.isMark = false

theorem Host.marks_happen {now : Nat} {w : Happening} :
    (h.happen now w).marks = h.marks ++ [w].filter (·.isMark) := by
  simp [marks]

/-- What a host has grown by is what has happened since. -/
theorem Host.Grew.marks (hg : h.Grew h') :
    h'.marks = h.marks ++ (h'.since h).filter (·.isMark) := by
  obtain ⟨new, hpast⟩ := hg.past
  rw [Host.marks, Host.since_eq hpast, hpast, List.filter_append, Host.marks]

theorem Handling.IsRun.marks {x : Handling} (hx : x.IsRun) :
    x.after.marks = x.before.marks ++ x.marks := by
  obtain ⟨u, hends⟩ := hx
  exact ((handle_works x.event).ends_grew hends).marks

/-- The marks of a course are those of its events: nothing is marked in between. -/
theorem Host.Course.marks {xs : List Handling} (hc : Host.Course Host.Idled h xs h') :
    h'.marks = h.marks ++ xs.flatMap Handling.marks := by
  have hidle {a b : Host} (hidled : a.Idled b) : b.marks = a.marks := by
    rw [Host.marks, hidled.past, Host.marks]
  induction xs generalizing h with
  | nil =>
    rw [List.flatMap_nil, List.append_nil]
    exact hidle hc
  | cons x xs ih =>
    obtain ⟨hb, hx, hrest⟩ := hc
    rw [ih hrest, hx.marks, hidle hb, List.flatMap_cons, List.append_assoc]

/-- A program whose deeds leave no marks leaves none, however it ends. -/
theorem Program.Works.marks {allowed : Deed → Prop} {p : HostProgram α} {r : Except String α}
    (hw : p.Works allowed) (hnone : ∀ d, allowed d → d.IsUnmarked) (hends : p.Ends t h r u h') :
    h'.marks = h.marks := by
  obtain ⟨steps, hrun⟩ := hends
  obtain ⟨new, hpast, hleft⟩ := hw.past hrun
  have hmarks : new.filter (·.isMark) = [] := by
    rw [List.filter_eq_nil_iff]
    intro w hmem
    obtain ⟨d, hd, hleaves⟩ := hleft w hmem
    simp [hnone d hd w hleaves]
  rw [Host.marks, hpast, List.filter_append, hmarks, List.append_nil, Host.marks]

/-! ### Deeds without marks -/

theorem Deed.IsCall.isUnmarked {ofNumber : Nat → Prop} {ofKind : Call → Prop}
    (hkind : ∀ c, ofKind c → ∀ removed, c ≠ .cleanup removed) {x : Deed}
    (hx : x.IsCall ofNumber ofKind) : x.IsUnmarked := by
  intro w hw
  cases x with
  | beginCall n call =>
    obtain rfl : w = .called n call := hw
    cases call with
    | cleanup removed => exact absurd rfl (hkind _ hx.2 removed)
    | _ => rfl
  | endCall n call ending =>
    obtain rfl : w = .ended n call ending := hw
    rfl
  | _ => exact hx.elim

theorem Deed.IsQuieting.isUnmarked {x : Deed} (hx : x.IsQuieting n) : x.IsUnmarked := by
  intro w hw
  cases x with
  | beginCall m call =>
    obtain rfl : w = .called m call := hw
    rcases hx.2 with rfl | rfl <;> rfl
  | endCall | switch | callGateway =>
    cases hw
    rfl
  | _ => exact hx.elim

/-- A drain leaves no marks. -/
theorem Deed.IsDraining.isUnmarked {x : Deed} (hx : x.IsDraining n) : x.IsUnmarked := by
  rcases hx with hx | hx
  · exact hx.isUnmarked
  · exact hx.isUnmarked (by rintro _ rfl removed; exact nofun)

/-- Enabling leaves no marks. -/
theorem Deed.IsEnabling.isUnmarked {x : Deed} (hx : x.IsEnabling d) : x.IsUnmarked := by
  intro w hw
  cases x with
  | build d' =>
    obtain ⟨invocation, journaled, rfl⟩ := hw
    rfl
  | register id m =>
    obtain rfl : w = .registered id m := hw
    rfl
  | beginCall m call =>
    obtain rfl : w = .called m call := hw
    obtain rfl : call = .start := hx
    rfl
  | endCall m call ending =>
    obtain rfl : w = .ended m call ending := hw
    rfl
  | _ => exact hx.elim

/-! ## What the parts of an event mark -/

-- What is noticed is no mark, and takes nothing away.
theorem Host.Noticed.marks (hn : h.Noticed h') : h'.marks = h.marks := by
  rw [Host.marks, hn.past, Host.marks]

theorem Host.Noticed.grew (hn : h.Noticed h') : h.Grew h' := by
  refine ⟨hn.setup, fun {m j} hj => ⟨j, ?_, rfl⟩, [], ?_⟩
  · rwa [Host.instance?, hn.instances]
  · rw [hn.past, List.append_nil]

/-- Each hook is run once, in order. It does not matter how the others have answered. -/
theorem runHooks_marks {phase : CleanupPhase} (hends : (runHooks id phase).Ends t h (.ok ()) u h') :
    h'.marks = h.marks ++ h.hookRuns id phase := by
  have heach : ∀ (hooks : List CleanupHook) {t h}, (forEach (runHook id phase) hooks).Ends t h
      (.ok ()) u h' → h'.marks = h.marks ++ hooks.map fun hook => .hookRun hook.name id phase := by
    intro hooks
    induction hooks with
    | nil =>
      intro t h hends
      obtain ⟨-, -, rfl⟩ := ends_done.mp hends
      simp
    | cons hook rest ih =>
      intro t h hends
      obtain ⟨_, t₁, h₁, hfirst, hrest⟩ := ends_bind_ok.mp hends
      obtain ⟨_, t₂, h₂, hrun, hanswer⟩ := ends_bind_ok.mp hfirst
      obtain ⟨-, -, rfl⟩ := ends_changeAt.mp hrun
      obtain ⟨answer, t₃, h₃, hwait, hnote⟩ := ends_bind_ok.mp hanswer
      obtain ⟨-, -, rfl⟩ := wait_ends.mp hwait
      rw [ih hrest, (noteFailure_noticed hnote).2.marks, Host.marks_happen, List.append_assoc]
      rfl
  exact heach h.hooks (ends_ask_bind.mp hends)

/-- The hooks of a host stay what they are, whatever is done to it. -/
theorem Host.Grew.hookRuns (hg : h.Grew h') (id : String) (phase : CleanupPhase) :
    h'.hookRuns id phase = h.hookRuns id phase := by
  have hhooks : h'.hooks = h.hooks := congrArg Setup.hooks hg.setup
  rw [Host.hookRuns, hhooks, Host.hookRuns]

/-- An instance that is there is told once to clean up, whatever it answers. -/
theorem cleanup_marks {removed : Bool} {r : Except String (Except ErrorChain Unit)}
    (hi : h.instance? n = some i) (hends : (callInstance n (.cleanup removed)).Ends t h r u h') :
    h'.marks = h.marks ++ [.called n (.cleanup removed)] := by
  obtain ⟨ending, -, -, hpast, -⟩ := callInstance_ends_of_some hi hends
  rw [Host.marks, hpast, List.filter_append, Host.marks]
  rfl

/-- What is registered is taken out. -/
theorem Host.unregister_marks (hn : h.registry.get? id = some n) :
    (h.unregister t id).2.marks = h.marks ++ [.unregistered id n] := by
  rw [unregister_some hn, marks_happen]
  rfl

theorem enable_marks {r : Except String (Except HostError Unit)}
    (hends : (enable d).Ends t h r u h') : h'.marks = h.marks :=
  (enable_works d).marks (fun _ => Deed.IsEnabling.isUnmarked) hends

theorem drain_marks {timeoutMs : Nat} {r : Except String (Except LifecycleError Unit)}
    (hends : (drain n timeoutMs).Ends t h r u h') : h'.marks = h.marks :=
  (drain_works n timeoutMs).marks (fun _ => Deed.IsDraining.isUnmarked) hends

/-! ## Removal -/

/-- A removal of what is registered drains it, takes it out whatever came of that, and goes
on with what has been taken out. -/
theorem remove_ends_of_registered {r : Except HostError Unit} (hn : h.registry.get? d.id = some n)
    (hends : (remove d).Ends t h (.ok r) u h') :
    ∃ drained t₁ h₁ t₂ h₂,
      (drain n h.settings.policy.drainTimeoutMs).Ends t h (.ok drained) t₁ h₁ ∧
      h₁.Noticed h₂ ∧ (removeTaken d n).Ends t₂ (h₂.unregister t₂ d.id).2 (.ok r) u h' := by
  have hfound := ends_ask_bind.mp hends
  rw [hn] at hfound
  obtain ⟨drained, t₁, h₁, hdrained, hforce⟩ := ends_bind_ok.mp (ends_ask_bind.mp hfound)
  obtain ⟨_, t₂, h₂, hnoted, hrest⟩ := ends_bind_ok.mp hforce
  exact ⟨drained, t₁, h₁, t₂, h₂, hdrained, (noteFailure_noticed hnoted).2, ends_act.mp hrest⟩

/-- What has been taken out is told to clean up, and then the hooks run. -/
theorem removeTaken_ends {r : Except HostError Unit} (hi : h.instance? n = some i)
    (hends : (removeTaken d n).Ends t h (.ok r) u h') :
    r = .ok () ∧ h'.registry = h.registry ∧
      h'.marks = h.marks ++ .called n (.cleanup true) :: h.hookRuns d.id .removed := by
  have hkeeps := (removeTaken_works d n).ends (fun _ => Deed.IsRemoving.sparesRegistry) hends
  obtain ⟨cleaned, t₁, h₁, hcleaned, hrest⟩ := ends_bind_ok.mp hends
  obtain ⟨_, t₂, h₂, hnoted, hrest⟩ := ends_bind_ok.mp hrest
  obtain ⟨_, t₃, h₃, hhooks, hdone⟩ := ends_bind_ok.mp hrest
  obtain ⟨hr, -, rfl⟩ := ends_done.mp hdone
  cases hr
  have hcall : (callInstance n (.cleanup true)).Works (Deed.IsCall (· = n) (· = .cleanup true)) :=
    callInstance_isCall rfl rfl
  obtain ⟨-, hnoticed⟩ := noteFailure_noticed hnoted
  have hgrew : h.Grew h₂ := (hcall.ends_grew hcleaned).trans hnoticed.grew
  refine ⟨rfl, hkeeps.1, ?_⟩
  rw [runHooks_marks hhooks, hgrew.hookRuns, hnoticed.marks, cleanup_marks hi hcleaned,
    List.append_assoc]
  rfl

/-- A removal of what is registered succeeds, if it comes to a result. The registration is
gone, the instance has been told once to clean up, and every hook has run once after that. -/
theorem remove_ends_removed {r : Except HostError Unit} (hn : h.registry.get? d.id = some n)
    (hi : h.instance? n = some i) (hends : (remove d).Ends t h (.ok r) u h') :
    r = .ok () ∧ h'.registry = h.registry.erase d.id ∧
      h'.marks = h.marks ++
        (.unregistered d.id n :: .called n (.cleanup true) :: h.hookRuns d.id .removed) := by
  obtain ⟨drained, t₁, h₁, t₂, h₂, hdrained, hnoticed, htaken⟩ :=
    remove_ends_of_registered hn hends
  obtain ⟨hreg, hgrew, -⟩ := (drain_works n _).ends (fun _ => Deed.IsDraining.sparesRegistry)
    hdrained
  have hreg₂ : h₂.registry = h.registry := hnoticed.registry.trans hreg
  have hn₂ : h₂.registry.get? d.id = some n := hreg₂ ▸ hn
  have hmarks₂ : h₂.marks = h.marks := hnoticed.marks.trans (drain_marks hdrained)
  -- The instance is still kept after it was taken out.
  have htaking : h₂.Grew (h₂.unregister t₂ d.id).2 := h₂.perform_grew t₂ (.unregister d.id)
  have hgrew' := (hgrew.trans hnoticed.grew).trans htaking
  obtain ⟨i', hi', -⟩ := hgrew'.instances hi
  obtain ⟨hr, hreg', hmarks'⟩ := removeTaken_ends hi' htaken
  refine ⟨hr, ?_, ?_⟩
  · rw [hreg', Host.unregister_registry, hreg₂]
  · rw [hmarks', hgrew'.hookRuns, Host.unregister_marks hn₂, hmarks₂, List.append_assoc]
    rfl

/-- A removal of what is not registered does nothing at all. -/
theorem remove_ends_of_none {r : Except String (Except HostError Unit)}
    (hn : h.registry.get? d.id = none) :
    (remove d).Ends t h r u h' ↔ r = .ok (.ok ()) ∧ u = t ∧ h' = h := by
  have hask : (remove d).Ends t h r u h' ↔ _ := ends_ask_bind
  rw [hask, hn]
  exact ends_done

/-! ## Update -/

/-- The phase that the hooks run in after an update has come to a result. -/
def updatePhase : Except HostError Unit → CleanupPhase
  | .ok _ => .updateSucceeded
  | .error _ => .updateFailed

/-- After going back the hooks run for an update that has failed. -/
theorem rollBack_marks {old : Descriptor} {e : HostError} {r : Except HostError Unit}
    (hends : (rollBack id old e).Ends t h (.ok r) u h') :
    h'.marks = h.marks ++ h.hookRuns id (updatePhase r) := by
  obtain ⟨_, t₁, h₁, hnote, hrest⟩ := ends_bind_ok.mp hends
  obtain ⟨back, t₂, h₂, henable, hrest⟩ := ends_bind_ok.mp hrest
  obtain ⟨_, t₃, h₃, hfailure, hrest⟩ := ends_bind_ok.mp hrest
  obtain ⟨_, t₄, h₄, hhooks, hdone⟩ := ends_bind_ok.mp hrest
  obtain ⟨hr, -, rfl⟩ := ends_done.mp hdone
  cases hr
  obtain ⟨-, hnoticed₁⟩ := noteAll_noticed hnote
  obtain ⟨-, hnoticed₃⟩ := noteFailure_noticed hfailure
  have hgrew : h.Grew h₃ :=
    (hnoticed₁.grew.trans ((enable_works old).ends_grew henable)).trans hnoticed₃.grew
  rw [runHooks_marks hhooks, hgrew.hookRuns, hnoticed₃.marks, enable_marks henable,
    hnoticed₁.marks]
  rfl

/-- However the new version comes out, every hook runs once, in the phase of the result. -/
theorem replaceWith_marks {old : Descriptor} {r : Except HostError Unit}
    (hends : (replaceWith d old).Ends t h (.ok r) u h') :
    h'.marks = h.marks ++ h.hookRuns d.id (updatePhase r) := by
  have hbuilds : (build d).Works (Deed.IsEnabling d) := build_works rfl
  obtain ⟨made, t₁, h₁, hbuild, hrest⟩ := ends_bind_ok.mp hends
  have hmarks₁ := hbuilds.marks (fun _ => Deed.IsEnabling.isUnmarked) hbuild
  have hgrew₁ := hbuilds.ends_grew hbuild
  cases made with
  | error e => rw [rollBack_marks hrest, hgrew₁.hookRuns, hmarks₁]
  | ok m =>
    obtain ⟨started, t₂, h₂, hstart, hrest⟩ := ends_bind_ok.mp hrest
    have hstarts : (registerAndStart d.id m).Works (Deed.IsEnabling d) := registerAndStart_works d m
    have hmarks₂ := hstarts.marks (fun _ => Deed.IsEnabling.isUnmarked) hstart
    have hgrew₂ := hgrew₁.trans (hstarts.ends_grew hstart)
    -- The phase follows the start, and so does the result.
    cases started with
    | ok _ =>
      obtain ⟨_, t₃, h₃, hhooks, hdone⟩ := ends_bind_ok.mp hrest
      obtain ⟨hr, -, rfl⟩ := ends_done.mp hdone
      cases hr
      rw [runHooks_marks hhooks, hgrew₂.hookRuns, hmarks₂, hmarks₁]
      rfl
    | error e =>
      obtain ⟨_, t₃, h₃, hhooks, hdone⟩ := ends_bind_ok.mp hrest
      obtain ⟨hr, -, rfl⟩ := ends_done.mp hdone
      cases hr
      rw [runHooks_marks hhooks, hgrew₂.hookRuns, hmarks₂, hmarks₁]
      rfl

/-- The old instance that has been taken out is told once to clean up. -/
theorem replaceTaken_marks {old : Descriptor} {settleDelayMs : Nat} {r : Except HostError Unit}
    (hi : h.instance? n = some i)
    (hends : (replaceTaken d n old settleDelayMs).Ends t h (.ok r) u h') :
    h'.marks = h.marks ++ .called n (.cleanup false) :: h.hookRuns d.id (updatePhase r) := by
  obtain ⟨ending, t₁, h₁, -, hgrew, hpast, hreplaced⟩ := replaceTaken_ends hi hends
  have hmarks₁ : h₁.marks = h.marks ++ [.called n (.cleanup false)] := by
    rw [Host.marks, hpast, List.filter_append, Host.marks]
    rfl
  rw [replaceWith_marks hreplaced, hgrew.hookRuns, hmarks₁, List.append_assoc]
  rfl

/-- What an update of a registered instance marks, given how its drain comes out. -/
theorem updateRegistered_marks {old : Instance} {r : Except HostError Unit}
    (hn : h.registry.get? d.id = some n) (hi : h.instance? n = some i)
    (hends : (updateRegistered d n old).Ends t h (.ok r) u h') :
    ∃ drained t₁ h₁, (drain n h.settings.policy.drainTimeoutMs).Ends t
        (h.notice (versionNotices d.id old.descriptor.version d.version)) (.ok drained) t₁ h₁ ∧
      ((∃ e, drained = .error e ∧ r = .error (.lifecycle (.updateFailed d.id e.message)) ∧
          h'.marks = h.marks ++ h.hookRuns d.id .updateFailed) ∨
        drained = .ok () ∧ h'.marks = h.marks ++
          (.unregistered d.id n :: .called n (.cleanup false) ::
            h.hookRuns d.id (updatePhase r))) := by
  obtain ⟨drained, t₁, h₁, hdrained, hrest⟩ := updateRegistered_ends hends
  refine ⟨drained, t₁, h₁, hdrained, ?_⟩
  obtain ⟨hreg, hgrew, -⟩ := (drain_works n _).ends (fun _ => Deed.IsDraining.sparesRegistry)
    hdrained
  have hnoted : h.Grew (h.notice (versionNotices d.id old.descriptor.version d.version)) :=
    h.perform_grew t (.notice _)
  have hgrew₁ := hnoted.trans hgrew
  have hmarks₁ : h₁.marks = h.marks := (drain_marks hdrained).trans rfl
  rcases hrest with ⟨e, v, rfl, hr, hhooks⟩ | ⟨rfl, htaken⟩
  · refine .inl ⟨e, rfl, hr, ?_⟩
    rw [runHooks_marks hhooks, hgrew₁.hookRuns, hmarks₁]
  · have hn₁ : h₁.registry.get? d.id = some n := hreg ▸ hn
    have htaking : h₁.Grew (h₁.unregister t₁ d.id).2 := h₁.perform_grew t₁ (.unregister d.id)
    have hgrew' := hgrew₁.trans htaking
    obtain ⟨i', hi', -⟩ := hgrew'.instances hi
    refine .inr ⟨rfl, ?_⟩
    rw [replaceTaken_marks hi' htaken, hgrew'.hookRuns, Host.unregister_marks hn₁, hmarks₁,
      List.append_assoc]
    rfl

/-! ## What an event marks -/

theorem disable_marks {r : Except String (Except HostError Unit)}
    (hends : (disable d).Ends t h r u h') : h'.marks = h.marks :=
  (disable_works d).marks (fun _ ⟨_, hd⟩ => hd.isUnmarked) hends

/-- An update of what is not registered enables it. -/
theorem update_ends_of_none {r : Except String (Except HostError Unit)}
    (hn : h.registry.get? d.id = none) (hends : (update d).Ends t h r u h') :
    (enable d).Ends t h r u h' := by
  have hfound := ends_ask_bind.mp hends
  simp only [hn, Option.bind_none] at hfound
  exact hfound

/-- Only the update and the removal of something that is registered leave marks. -/
theorem handle_marks_of_none {e : Event} {r : Except String (Except HostError Unit)}
    (hnone : e.change = .update ∨ e.change = .remove → h.registry.get? e.id = none)
    (hends : (handle e).Ends t h r u h') : h'.marks = h.marks := by
  unfold handle at hends
  cases hchange : e.change with
  | enable =>
    rw [hchange] at hends
    exact enable_marks hends
  | disable =>
    rw [hchange] at hends
    exact disable_marks hends
  | update =>
    rw [hchange] at hends
    exact enable_marks (update_ends_of_none (hnone (.inl hchange)) hends)
  | remove =>
    rw [hchange] at hends
    obtain ⟨-, -, rfl⟩ := (remove_ends_of_none (hnone (.inr hchange))).mp hends
    rfl

/-- The marks of the departure of an instance: it is taken out, and told to clean up. -/
def departure (id : String) (n : Nat) (removed : Bool) : List Happening :=
  [.unregistered id n, .called n (.cleanup removed)]

/-- The drain that an update of a registered instance begins with has come out so. -/
def Handling.Drained (x : Handling) (n : Nat) (old : Instance) (r : Except LifecycleError Unit) :
    Prop :=
  ∃ u h, (drain n x.before.settings.policy.drainTimeoutMs).Ends x.start (x.before.notice
    (versionNotices x.event.id old.descriptor.version x.event.descriptor.version)) (.ok r) u h

/-- What an event has marked. The removal of what is registered takes it out and tells it once
to clean up, and after that every hook has run once; an update does so if its drain has
succeeded, and every hook has run once in the phase of its result in any case. Nothing else is
ever marked. -/
structure Handling.Concludes (x : Handling) : Prop where
  removed : ∀ n r, x.event.change = .remove → x.before.registry.get? x.event.id = some n →
    x.result = .ok r →
    r = .ok () ∧ x.after.registry = x.before.registry.erase x.event.id ∧
      x.marks = departure x.event.id n true ++ x.before.hookRuns x.event.id .removed
  updated : ∀ n r, x.event.change = .update → x.before.registry.get? x.event.id = some n →
    x.result = .ok r →
    ∃ old drained, x.before.instance? n = some old ∧ x.Drained n old drained ∧
      x.marks = (if drained.isOk then departure x.event.id n false else []) ++
        x.before.hookRuns x.event.id (updatePhase r)
  others : (x.event.change = .update ∨ x.event.change = .remove →
    x.before.registry.get? x.event.id = none) → x.marks = []
  brokeDown : ∀ message, x.result = .error message → x.after.BrokeDown message

theorem Handling.marks_eq {x : Handling} {new : List Happening} (hx : x.IsRun)
    (hmarks : x.after.marks = x.before.marks ++ new) : x.marks = new :=
  List.append_cancel_left (hx.marks.symm.trans hmarks)

/-- Every event on a sound host leaves the marks that it should. -/
theorem Handling.IsRun.concludes {x : Handling} (hx : x.IsRun) (hs : x.before.Sound) :
    x.Concludes := by
  obtain ⟨u, hends⟩ := id hx
  refine ⟨fun n r hchange hn hr => ?_, fun n r hchange hn hr => ?_, fun hnone => ?_,
    fun message hr => ?_⟩
  · obtain ⟨i, hi, -⟩ := hs.reports hn
    rw [handle, hchange, hr] at hends
    obtain ⟨hok, hreg, hmarks⟩ := remove_ends_removed hn hi hends
    exact ⟨hok, hreg, marks_eq hx hmarks⟩
  · obtain ⟨old, hi, -⟩ := hs.reports hn
    rw [handle, hchange, hr] at hends
    obtain ⟨drained, t₁, h₁, hdrained, hout⟩ :=
      updateRegistered_marks hn hi (update_ends_registered hn hi hends)
    refine ⟨old, drained, hi, ⟨t₁, h₁, hdrained⟩, marks_eq hx ?_⟩
    rcases hout with ⟨e, rfl, rfl, hmarks⟩ | ⟨rfl, hmarks⟩
    · exact hmarks
    · exact hmarks
  · exact marks_eq hx ((handle_marks_of_none hnone hends).trans (List.append_nil _).symm)
  · rw [hr] at hends
    exact (handle_blames x.event).blames rfl hends

end ExtensionHost
