import ExtensionHost.Host.Watch
import ExtensionHost.Proofs.Enabling
import ExtensionHost.Proofs.Reached

/-!
# Going back to the old version

An update whose new version cannot be built enables the old one again, from what the old
instance reports. For a real instance that is what it was loaded from. A synthetic one
reports a version of its own, and so the version of its manifest is lost on the way.
-/

namespace ExtensionHost

open Program

variable {t u n : Nat} {h h' : Host} {d d' old : Descriptor} {i : Instance} {b : Blueprint}

/-! ## Faithful constructors -/

/-- What was constructed reports the description that it was given, and exposes its
context. -/
def Blueprint.IsFaithful (d : Descriptor) (b : Blueprint) : Prop :=
  b.descriptor = d ∧ b.exposesContext = true

/-- The instance is a synthetic one that stands in for what the description is about. -/
def Instance.StandsInFor (i : Instance) (d : Descriptor) : Prop :=
  i.descriptor = d.synthetic ∧ i.conduct = .idle

/-- What stands in for a stand-in reports the same. -/
theorem Descriptor.synthetic_synthetic (d : Descriptor) : d.synthetic.synthetic = d.synthetic := by
  unfold synthetic
  by_cases hname : d.name.isEmpty = true
  · simp [hname]
  · simp [hname]

/-- What an instance reports that was made by a faithful constructor. -/
structure Instance.Reports (i : Instance) (d : Descriptor) : Prop where
  reports : i.descriptor = d ∨ i.StandsInFor d
  entryPoint : d.hasEntryPoint = true
  folder : d.folder.isEmpty = false
  version : i.context.bind (·.sourceVersion) = some d.version

theorem Instance.StemsFrom.reports (hi : i.StemsFrom Blueprint.IsFaithful d) :
    ∃ context, i.Reports (d.inContext context) := by
  have hversion := hi.sourceVersion fun _ _ hb => hb.2
  rcases hi with ⟨hentry, b, context, hmake, -, hfolder, hmeant⟩
  have hdescriptor : i.descriptor = b.descriptor := congrArg (·.1) hmake
  have hconduct : i.conduct = b.conduct := congrArg (·.2.2) hmake
  refine ⟨context, ?_, hentry, ?_, hversion⟩
  · rcases hmeant with ⟨hb, -⟩ | rfl
    · exact .inl (hdescriptor.trans hb)
    · exact .inr ⟨hdescriptor, hconduct⟩
  · unfold Descriptor.inContext
    split
    · exact hfolder
    next hd => simpa using hd

namespace Instance.Reports

/-- Whatever an instance reports, it can be built again. -/
theorem descriptor_ready (hi : i.Reports d) :
    i.descriptor.hasEntryPoint = true ∧ i.descriptor.folder.isEmpty = false := by
  rcases hi.reports with hd | ⟨hd, -⟩
  · exact hd ▸ ⟨hi.entryPoint, hi.folder⟩
  · exact hd ▸ ⟨hi.entryPoint, hi.folder⟩

/-- Only a synthetic instance reports another version than it was loaded from. -/
theorem standsIn_of_version (hi : i.Reports d) (hne : d.version ≠ i.descriptor.version) :
    i.StandsInFor d := by
  rcases hi.reports with hd | hstands
  · exact absurd (hd ▸ rfl) hne
  · exact hstands

end Instance.Reports

/-! ## What is started on the way -/

/-- No instance has been started since an earlier state. -/
def Host.StartedNone (h h' : Host) : Prop :=
  ∃ new, h'.past = h.past ++ new ∧ ∀ n, .ended n .start .succeeded ∉ new

theorem Host.StartedNone.trans {h'' : Host} (hs : h.StartedNone h') (hs' : h'.StartedNone h'') :
    h.StartedNone h'' := by
  rcases hs with ⟨xs, hpast, hxs⟩
  rcases hs' with ⟨ys, hpast', hys⟩
  refine ⟨xs ++ ys, by rw [hpast', hpast, List.append_assoc], fun n hmem => ?_⟩
  exact (List.mem_append.mp hmem).elim (hxs n) (hys n)

theorem Host.StartedNone.not_mem (hs : h.StartedNone h') :
    .ended n .start .succeeded ∉ h'.since h := by
  rcases hs with ⟨new, hpast, hnew⟩
  rw [since_eq hpast]
  exact hnew n

theorem Host.build_startedNone : h.StartedNone (h.build t d).2 := by
  rcases (h.build_makes t d).built with ⟨made, hb⟩
  rcases hb.past with ⟨new, hpast, hnew⟩
  refine ⟨new, hpast, fun n hmem => ?_⟩
  rcases hnew _ hmem with ⟨invocation, journaled, hw⟩
  cases hw

theorem runHooks_startedNone {id : String} {phase : CleanupPhase} {r : Except String Unit}
    (hends : (runHooks id phase).Ends t h r u h') : h.StartedNone h' := by
  rcases runHooks_ends hends with ⟨-, -, new, hpast, hleft⟩
  exact ⟨new, hpast, fun n => Deed.ended_not_left hleft False.elim⟩

theorem Host.Cleared.startedNone (hc : h.Cleared d n h') : h.StartedNone h' := by
  rcases hc.past with ⟨drained, ending, hpast, hleft⟩
  refine ⟨drained ++ [.unregistered d.id n, .called n (.cleanup false),
    .ended n (.cleanup false) ending], by rw [hpast, List.append_assoc], fun m hmem => ?_⟩
  rcases List.mem_append.mp hmem with hmem | hmem
  · exact Deed.ended_not_left hleft Deed.IsDraining.not_startEnd hmem
  · simp at hmem

/-- An enabling that fails has started nothing. -/
theorem enable_error_startedNone {meant : Descriptor → Blueprint → Prop} {e : HostError}
    (hS : h.setup.Builds meant) (hentry : d.hasEntryPoint = true)
    (hid : isBlankText d.id = false) (hends : (enable d).Ends t h (.ok (.error e)) u h') :
    h.StartedNone h' := by
  rcases enable_ends hS hentry hid hends with ⟨e', -, -, rfl⟩ | ⟨ending, r, houtcome, hr, hbrings⟩
  · exact Host.build_startedNone
  · cases houtcome with
    | started => cases hr
    | @failed reason =>
      rcases hbrings.past with ⟨constructed, hpast, hconstructed⟩
      refine ⟨_, by rw [hpast, List.append_assoc], fun n hmem => ?_⟩
      rcases List.mem_append.mp hmem with hmem | hmem
      · rcases hconstructed _ hmem with ⟨invocation, journaled, hw⟩
        cases hw
      · simp at hmem

/-! ## Going back -/

/-- An update that goes back enables the old version, and runs hooks after that. -/
theorem rollBack_enables {id : String} {e : HostError} {r : Except HostError Unit}
    (hends : (rollBack id old e).Ends t h (.ok r) u h') :
    ∃ back t₁ h₁, (enable old).Ends t (h.notice [.updateRolledBack id e]) (.ok back) t₁ h₁ ∧
      h'.registry = h₁.registry ∧ h'.instances = h₁.instances ∧ h₁.StartedNone h' := by
  rcases ends_bind_ok.mp hends with ⟨_, t₀, h₀, hnote, hrest⟩
  obtain ⟨-, rfl, rfl⟩ := ends_change.mp hnote
  rcases ends_bind_ok.mp hrest with ⟨back, t₁, h₁, henable, hrest⟩
  rcases ends_bind_ok.mp hrest with ⟨_, t₂, h₂, hfailure, hrest⟩
  rcases ends_bind_ok.mp hrest with ⟨_, t₃, h₃, hhooks, hdone⟩
  obtain ⟨-, -, rfl⟩ := ends_done.mp hdone
  have hnoted : h₂.registry = h₁.registry ∧ h₂.instances = h₁.instances ∧ h₂.past = h₁.past := by
    cases back with
    | ok _ =>
      obtain ⟨-, -, rfl⟩ := ends_done.mp hfailure
      exact ⟨rfl, rfl, rfl⟩
    | error e =>
      obtain ⟨-, -, rfl⟩ := ends_change.mp hfailure
      exact ⟨rfl, rfl, rfl⟩
  rcases hnoted with ⟨hreg, hinstances, hpast⟩
  rcases runHooks_ends hhooks with ⟨hreg', hinstances', -⟩
  rcases runHooks_startedNone hhooks with ⟨new, hpast', hnew⟩
  exact ⟨back, t₁, h₁, henable, hreg'.trans hreg, hinstances'.trans hinstances, new,
    hpast ▸ hpast', hnew⟩

namespace UpdateRun

/-- The update went back, and started the old version again. -/
structure Restored (x : UpdateRun) : Prop where
  wentBack : x.EndsAs .wentBack
  started : ∃ n, .ended n .start .succeeded ∈ x.happenings

/-- What is registered under the id is started and was loaded from the version that the
old instance reported. It reports what the old one did, unless it is a synthetic one that
stands in for a real one. -/
structure BringsBack (x : UpdateRun) (i : Instance) : Prop where
  registered : x.after.record? x.d.id = some i
  started : i.started = true
  reports : i.descriptor = x.old.descriptor ∨
    i.StandsInFor x.old.descriptor ∧ ∀ d, ¬ x.old.StandsInFor d
  loaded : x.after.loadedVersion i = x.old.descriptor.version

/-- Where an update went back, the old version was enabled where nothing was registered
under the id, and nothing was started besides. -/
theorem enables_of_wentBack {x : UpdateRun} (hs : x.before.Sound)
    (hn : x.before.registry.get? x.d.id = some x.n) (hi : x.before.instance? x.n = some x.old)
    (hends : (updateRegistered x.d x.n x.old).Ends x.start x.before (.ok x.result) u x.after)
    (hback : x.WentBack) :
    ∃ back t₁ h₁ t₂ h₂, h₁.setup = x.before.setup ∧ x.before.StartedNone h₁ ∧
      (enable x.old.descriptor).Ends t₁ h₁ (.ok back) t₂ h₂ ∧
      x.after.registry = h₂.registry ∧ x.after.instances = h₂.instances ∧
      h₂.StartedNone x.after := by
  rcases hback.result with ⟨_, _, _, -, -, hresult⟩
  rcases updateRegistered_ends hends with ⟨drained, t₁, h₁, hdrained, hrest⟩
  rcases hrest with ⟨e, v, rfl, hfailed, hhooks⟩ | ⟨rfl, htaken⟩
  · -- An update that kept the old instance has not told it to clean up.
    have hkept : x.Kept := kept_of_drained hdrained hfailed hhooks
    have hone : x.happenings.count (.called x.n (.cleanup false)) = 1 := hback.cleaned
    exact absurd hone (by simp [List.count_eq_zero_of_not_mem (hkept.notCleaned false)])
  rcases cleared_of_drained hn hi hdrained htaken with ⟨t₂, h₂, hcleared, hreplaced⟩
  rcases ends_bind_ok.mp hreplaced with ⟨made, t₃, h₃, hbuild, hrest⟩
  obtain ⟨hmade, rfl, rfl⟩ := build_ends.mp hbuild
  cases made with
  | error e =>
    rcases rollBack_enables hrest with ⟨back, t₄, h₄, henable, hreg, hinstances, hnone⟩
    have hsetup : (h₂.build t₃ x.d).2.setup = x.before.setup :=
      (h₂.perform_grew t₃ (.build x.d)).setup.trans hcleared.setup
    exact ⟨back, t₃, (h₂.build t₃ x.d).2.notice [.updateRolledBack x.d.id e], t₄, h₄, hsetup,
      hcleared.startedNone.trans Host.build_startedNone, henable, hreg, hinstances, hnone⟩
  | ok m =>
    -- What could be built is registered, and the result tells how its start came out.
    rcases replaceWith_ends (hs.not_blank hn) hreplaced with
      ⟨e, t₄, h₄, hfailed, -⟩ | ⟨ending, r, houtcome, hr, -⟩
    · cases hmade.trans hfailed
    · rw [hresult] at hr
      cases houtcome <;> cases hr

end UpdateRun

/-- An update that went back and started the old version again has registered an instance
that was loaded from the version that the old one reported. That is the version from before
unless a synthetic instance was updated, which reports a version of its own. -/
theorem update_goes_back_to_reported_version {m : HostMachine} {d : Descriptor} {old : Instance}
    {r : Except HostError Unit} (hm : m.Reached (·.Builds Blueprint.IsFaithful))
    (hn : m.state.registry.get? d.id = some n) (hi : m.state.instance? n = some old)
    (hends : (update d).Ends t m.state (.ok r) u h')
    (hrestored : UpdateRun.Restored ⟨d, n, old, t, m.state, r, h'⟩) :
    ∃ i, UpdateRun.BringsBack ⟨d, n, old, t, m.state, r, h'⟩ i ∧
      (h'.loadedVersion i = m.state.loadedVersion old ↔
        m.state.loadedVersion old = old.descriptor.version) ∧
      (m.state.loadedVersion old ≠ old.descriptor.version → ∃ d₀, old.StandsInFor d₀) := by
  rcases hm.inOrder with ⟨hS, ho, -⟩
  -- What the old instance reports is enough to build it again.
  rcases ho.stems hi with ⟨d₀, hstems⟩
  rcases hstems.reports with ⟨context, hreports⟩
  rcases hreports.descriptor_ready with ⟨hentry, hfolder⟩
  obtain ⟨_, hi', hid⟩ := ho.sound.reports hn
  cases hi.symm.trans hi'
  have hdid : old.descriptor.id = d.id := hid
  have hblank : isBlankText old.descriptor.id = false := by
    rw [hdid]
    exact ho.sound.not_blank hn
  let x : UpdateRun := ⟨d, n, old, t, m.state, r, h'⟩
  rcases UpdateRun.enables_of_wentBack (x := x) ho.sound hn hi (update_ends_registered hn hi hends)
    hrestored.wentBack with ⟨back, t₂, h₂, t₃, h₃, hsetup, hnone, henable, hreg, hinstances, hnone'⟩
  have hS₂ : h₂.setup.Builds Blueprint.IsFaithful := hsetup ▸ hS
  -- If the old version had not been enabled, then nothing would have been started.
  rcases hrestored.started with ⟨k, hstarted⟩
  cases back with
  | error e =>
    have hfailed := enable_error_startedNone hS₂ hentry hblank henable
    exact absurd hstarted ((hnone.trans hfailed).trans hnone').not_mem
  | ok _ =>
  rcases enable_ends hS₂ hentry hblank henable with ⟨e, -, hno, -⟩ | ⟨ending, r', houtcome, hr, hb⟩
  · cases hno
  cases houtcome with
  | failed => cases hr
  | started =>
  rcases hb.registered with ⟨i, hnew, hget, hinew, hcontext, hstart⟩
  rcases hnew.stems.reports with ⟨context', hreports'⟩
  rw [Descriptor.inContext_of_folder hfolder] at hreports'
  have hloaded : h'.loadedVersion i = old.descriptor.version := by
    refine Host.loadedVersion_of_context ?_ hreports'.version
    rw [hreg, hnew.id]
    exact hcontext
  have hbefore : m.state.loadedVersion old = d₀.version := by
    refine Host.loadedVersion_of_context ?_ hreports.version
    exact ho.paired.context? (hid ▸ hn) hi
  refine ⟨i, ⟨?_, hstart rfl, ?_, hloaded⟩, ?_, fun hne => ?_⟩
  · show (h'.registry.get? d.id).bind h'.instance? = some i
    rw [hreg, ← hdid, hget, Option.bind_some, Host.instance?, hinstances]
    exact hinew
  · rcases hreports'.reports with hd | hstands
    · exact .inl hd
    · -- What stands in for a synthetic instance reports the same as that.
      by_cases hold : ∃ d, old.StandsInFor d
      · rcases hold with ⟨d, hd, -⟩
        refine .inl (hstands.1.trans ?_)
        show old.descriptor.synthetic = old.descriptor
        rw [hd, Descriptor.synthetic_synthetic]
      · exact .inr ⟨hstands, fun d hd => hold ⟨d, hd⟩⟩
  · rw [hloaded]
    exact eq_comm
  · exact ⟨_, hreports.standsIn_of_version (hbefore ▸ hne)⟩

/-! ## Small hosts -/

/-- A host on which an extension has been enabled in a task. -/
private def enabledHost (f : Factory) (d : Descriptor) : HostMachine :=
  let started := (Machine.start (.serving LifecyclePolicy.default f [d.id])).spawn hostJobs false
    (.handle (.of .enable d))
  match started.tasks with
  | a :: _ => started.runTask hostJobs a
  | [] => started

private theorem enabledHost_reached {meant : Descriptor → Blueprint → Prop} {f : Factory}
    {d : Descriptor} (hf : f.Builds meant) : (enabledHost f d).Reached (·.Builds meant) := by
  have hfresh : (Host.serving LifecyclePolicy.default f [d.id]).IsFresh := ⟨rfl, rfl, rfl⟩
  have hS : (Host.serving LifecyclePolicy.default f [d.id]).setup.Builds meant :=
    Host.serving_builds hf
  exact .turn (.setOff false (.handle (.of .enable d)) (.fresh hfresh hS)) List.mem_cons_self rfl

/-- A description with a version. -/
private def Descriptor.versioned (entryPoint version : String) : Descriptor :=
  { Descriptor.at entryPoint "a" with version := version }

/-- A real instance is updated to a version without a factory, and is back afterwards with
the version that it was loaded from. -/
theorem update_of_real_goes_back :
    let before := (enabledHost (.uniform "e" .idle .zero) (.versioned "e" "2.0.0")).state
    let run := (update (.versioned "missing" "3.0.0")).alone 7 before
    ∃ old i r, before.instance? 0 = some old ∧ run.2.1 = done r ∧
      UpdateRun.BringsBack ⟨.versioned "missing" "3.0.0", 0, old, 7, before, r, run.2.2.2⟩ i ∧
      run.2.2.2.loadedVersion i = before.loadedVersion old := by
  let m := enabledHost (.uniform "e" .idle .zero) (.versioned "e" "2.0.0")
  let run := (update (.versioned "missing" "3.0.0")).alone 7 m.state
  have hm : m.Reached (·.Builds Blueprint.IsFaithful) :=
    enabledHost_reached (Factory.uniform_builds fun _ => ⟨rfl, rfl⟩)
  have hs : m.state.Sound := hm.inOrder.2.1.sound
  have hn : m.state.registry.get? "a" = some 0 := by decide +kernel
  have hversions : (m.state.instance? 0).map (fun i => (m.state.loadedVersion i,
      i.descriptor.version)) = some ("2.0.0", "2.0.0") := by decide +kernel
  rcases hs.linked hn with ⟨old, hi⟩
  have hvalue : run.2.1.value? = some (.error (.lifecycle (.updateFailed "a"
      "Isolation load error: [a] Entry point 'missing' is not registered"))) := by decide +kernel
  have hdone := Program.eq_done_of_value? hvalue
  have hends : (update (.versioned "missing" "3.0.0")).Ends 7 m.state (.ok _) run.2.2.1 run.2.2.2 :=
    ⟨_, hdone ▸ alone_run _ _ _⟩
  have hcleaned : .called 0 (.cleanup false) ∈ run.2.2.2.since m.state := by decide +kernel
  have hstarted : .ended 1 .start .succeeded ∈ run.2.2.2.since m.state := by decide +kernel
  rcases UpdateRun.exists_endsAs (x := ⟨.versioned "missing" "3.0.0", 0, old, 7, m.state, _, _⟩)
    hs hn hi (update_ends_registered hn hi hends) with ⟨ending, hending⟩
  obtain rfl : ending = .wentBack := by
    rw [hending.eq_shown]
    simp [UpdateRun.shown, UpdateRun.happenings, hcleaned]
  rcases update_goes_back_to_reported_version hm hn hi hends ⟨hending, 1, hstarted⟩ with
    ⟨i, hback, hloaded, -⟩
  refine ⟨old, i, _, hi, hdone, hback, hloaded.mpr ?_⟩
  simp only [hi, Option.map_some, Option.some.injEq, Prod.mk.injEq] at hversions
  exact hversions.1.trans hversions.2.symm

/-- The factory whose constructor always fails. -/
private def brokenFactory : Factory :=
  ⟨"broken", [⟨[], fun _ _ => .error ⟨"broken", []⟩⟩], false⟩

/-- A host on which a synthetic instance stands in for version 2.0.0. -/
private def syntheticHost : HostMachine :=
  (HostMachine.run (Machine.start (.serving LifecyclePolicy.default brokenFactory ["a"]))
    (enable (.versioned "broken" "2.0.0"))).2

/-- The same host after an update to a version that cannot be built. -/
private def syntheticAgain : HostMachine :=
  (syntheticHost.run (update (.versioned "missing" "3.0.0"))).2

/-- What is seen of the instance that is registered: the version and the author that it
reports, whether it is started, and the version that it counts as loaded from. -/
private def Host.seen (h : Host) : Option (String × Option String × Bool × String) :=
  (h.record? "a").map fun i =>
    (i.descriptor.version, i.descriptor.author, i.started, h.loadedVersion i)

/-- A synthetic instance reports a version of its own. The update goes back to it, and
starts it again; but it no longer counts as loaded from version 2.0.0. -/
theorem update_forgets_version_of_synthetic :
    syntheticHost.state.seen = some ("1.0.0", some "System", true, "2.0.0") ∧
      syntheticAgain.state.seen = some ("1.0.0", some "System", true, "1.0.0") ∧
      syntheticAgain.state.since syntheticHost.state = [
        .switched 0 false, .called 0 .stop, .ended 0 .stop .succeeded, .unregistered "a" 0,
        .called 0 (.cleanup false), .ended 0 (.cleanup false) .succeeded,
        .constructed "a" "1.0.0" ⟨0, []⟩ false, .registered "a" 1,
        .called 1 .start, .ended 1 .start .succeeded] := by
  decide +kernel

end ExtensionHost
