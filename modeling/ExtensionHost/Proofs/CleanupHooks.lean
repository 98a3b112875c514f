import ExtensionHost.Proofs.CleanupFailure

/-!
# Cleanup hooks

When cleanup hooks run and instances are told to clean up, over any events that are handled one
after another: with the removal or the update of something that is registered, as it comes out,
and at no other time. And that what they answer changes nothing.
-/

namespace ExtensionHost

open Program

variable {t u n : Nat} {h h' k k' : Host} {d : Descriptor} {xs ys : List Handling}

/-! ## Courses next to each other -/

/-- The same has come of an event on a host and on the one where no cleanup fails: the same
result, the same registrations, and the same marks. -/
structure Handling.Mirrors (x y : Handling) : Prop where
  event : x.event = y.event
  result : BothEnd (· = ·) True x.result y.result
  registry : y.after.registry = x.after.registry.unfailing
  marks : y.marks = x.marks

/-- Any events can be handled one after another. -/
theorem Host.exists_course (events : List Event) (h : Host) :
    ∃ xs h', Host.Course Eq h xs h' ∧ xs.map Handling.event = events := by
  induction events generalizing h with
  | nil => exact ⟨[], h, rfl, rfl⟩
  | cons e rest ih =>
    obtain ⟨r, h₁, hx⟩ := handle_comes_to_end e 0 h
    obtain ⟨xs, h', hc, hevents⟩ := ih h₁
    exact ⟨⟨e, 0, h, r, h₁⟩ :: xs, h', ⟨rfl, hx, hc⟩, congrArg (e :: ·) hevents⟩

theorem Handling.IsRun.mirrors {x y : Handling} (hx : x.IsRun) (hy : y.IsRun)
    (hevent : x.event = y.event) (hm : x.before.Mirrors y.before) :
    x.Mirrors y ∧ x.after.Mirrors y.after := by
  obtain ⟨u, hends⟩ := id hx
  obtain ⟨u', hends'⟩ := id hy
  rw [← hevent] at hends'
  have hboth := handle_mirrored x.event hm hends hends'
  have hafter : x.after.Mirrors y.after := by
    cases hr : x.result <;> cases hr' : y.result <;> rw [hr, hr'] at hboth <;> cases hboth
    · assumption
    · exact And.right ‹_›
  have hmarks : y.marks = x.marks := by
    have happended := hafter.marks
    rw [hx.marks, hy.marks, hm.marks] at happended
    exact List.append_cancel_left happended
  exact ⟨⟨hevent, hboth.mono And.left fun _ => trivial, hafter.registry, hmarks⟩, hafter⟩

/-- The same comes of each of some events, one after another. -/
theorem Host.Course.mirrors (hm : h.Mirrors k) (hc : Host.Course Eq h xs h')
    (hc' : Host.Course Eq k ys k') (hevents : xs.map Handling.event = ys.map Handling.event) :
    List.Forall₂ Handling.Mirrors xs ys := by
  induction xs generalizing ys h k with
  | nil =>
    obtain rfl := List.map_eq_nil_iff.mp hevents.symm
    exact .nil
  | cons x xs ih =>
    cases ys with
    | nil => cases hevents
    | cons y ys =>
      obtain ⟨hevent, hrest⟩ := List.cons.inj hevents
      obtain ⟨rfl, hx, hxs⟩ := hc
      obtain ⟨rfl, hy, hys⟩ := hc'
      obtain ⟨hxy, hafter⟩ := hx.mirrors hy hevent hm
      exact .cons hxy (ih hafter hxs hys hrest)

/-! ## All events -/

/-- Any events that are handled one after another leave nothing of hooks and cleanups but what
each of them leaves by itself, as it has come out. And each of them comes out the same as if no
hook and no cleanup had ever failed, where those that fail return. One that breaks down has no
result, and neither has the event in which it does. -/
theorem hooks_follow_events (hs : h.Sound) :
    (∀ events, ∃ xs h', Host.Course Eq h xs h' ∧ xs.map Handling.event = events) ∧
    (∀ xs h', Host.Course Host.Idled h xs h' →
      h'.marks = h.marks ++ xs.flatMap Handling.marks ∧ ∀ x ∈ xs, x.Concludes) ∧
    (h.CleansUp → ∀ xs ys h' k', Host.Course Eq h xs h' → Host.Course Eq h.unfailing ys k' →
      xs.map Handling.event = ys.map Handling.event → List.Forall₂ Handling.Mirrors xs ys) := by
  refine ⟨fun events => h.exists_course events, fun xs h' hc => ?_, fun hclean xs ys h' k' hc hc' =>
    hc.mirrors hclean.mirrors hc'⟩
  obtain ⟨hall, -⟩ := hc.sound hs
  exact ⟨hc.marks, fun x hx => (hall x hx).1.concludes (hall x hx).2⟩

/-! ## A host where cleanup fails -/

/-- The answer of a cleanup that fails, after a while. -/
private def lateRefusal : Response :=
  ⟨3, .failed ⟨"no", []⟩⟩

/-- The conduct of an extension that fails to clean up. -/
private def uncleanConduct : Conduct :=
  { Conduct.idle with
    respond := fun call _ =>
      match call with
      | .cleanup _ => lateRefusal
      | _ => .immediate }

/-- A host with that extension and two hooks, the first of which fails. -/
private def unclean : Host :=
  { Host.serving LifecyclePolicy.default (.uniform "e" uncleanConduct .zero) ["a"] with
    hooks := [⟨"first", fun _ _ => lateRefusal⟩, ⟨"second", fun _ _ => .immediate⟩] }

/-- An event about the extension that is handled with success. -/
private def Host.succeeding (h : Host) (start : Nat) (change : Change) : Handling :=
  ⟨.of change (.at "e" "a"), start, h, .ok (.ok ()),
    ((handle (.of change (.at "e" "a"))).alone start h).2.2.2⟩

private theorem Host.succeeding_isRun {start : Nat} {change : Change}
    (hvalue : ((handle (.of change (.at "e" "a"))).alone start h).2.1.value? = some (.ok ())) :
    (h.succeeding start change).IsRun :=
  ⟨_, ends_of_value? hvalue⟩

private theorem unclean_cleansUp : unclean.CleansUp where
  hooks hook hmem id phase := by
    rcases List.mem_cons.mp hmem with rfl | hmem
    · exact nofun
    · obtain rfl := List.mem_singleton.mp hmem
      exact nofun
  builds := by
    have hf : (Factory.uniform "e" uncleanConduct .zero).Builds fun _ b => b.conduct.CleansUp :=
      Factory.uniform_builds fun _ _ _ => nofun
    have hS : (Host.serving LifecyclePolicy.default (.uniform "e" uncleanConduct .zero)
        ["a"]).setup.Builds fun _ b => b.conduct.CleansUp := Host.serving_builds hf
    exact ⟨hS.table, nofun⟩
  instances := nofun

/-- An extension that fails to clean up is enabled, updated and removed, and the hooks run after
the update and after the removal, the second one though the first has failed. Where nothing of
that fails the same comes of it. -/
theorem hooks_follow_failing_cleanup :
    let enabled := unclean.succeeding 7 .enable
    let updated := enabled.after.succeeding 17 .update
    let removed := updated.after.succeeding 27 .remove
    removed.after.marks = [
        .unregistered "a" 0, .called 0 (.cleanup false),
        .hookRun "first" "a" .updateSucceeded, .hookRun "second" "a" .updateSucceeded,
        .unregistered "a" 1, .called 1 (.cleanup true),
        .hookRun "first" "a" .removed, .hookRun "second" "a" .removed] ∧
      (∀ x ∈ [enabled, updated, removed], x.Concludes) ∧
      ∃ ys k', Host.Course Eq unclean.unfailing ys k' ∧
        List.Forall₂ Handling.Mirrors [enabled, updated, removed] ys := by
  let enabled := unclean.succeeding 7 .enable
  let updated := enabled.after.succeeding 17 .update
  let removed := updated.after.succeeding 27 .remove
  obtain ⟨-, hleaves, hmirrors⟩ := hooks_follow_events (Host.sound_of_empty (h := unclean) rfl)
  obtain ⟨hexists, -⟩ := hooks_follow_events (Host.sound_of_empty (h := unclean.unfailing) rfl)
  have hcourse : Host.Course Eq unclean [enabled, updated, removed] removed.after :=
    ⟨rfl, Host.succeeding_isRun (by decide +kernel), rfl,
      Host.succeeding_isRun (by decide +kernel), rfl,
      Host.succeeding_isRun (by decide +kernel), rfl⟩
  have hidled : Host.Course Host.Idled unclean [enabled, updated, removed] removed.after := by
    obtain ⟨-, hfirst, -, hsecond, -, hthird, -⟩ := hcourse
    exact ⟨.refl _, hfirst, .refl _, hsecond, .refl _, hthird, .refl _⟩
  obtain ⟨ys, k', hc, hevents⟩ := hexists ([enabled, updated, removed].map Handling.event)
  exact ⟨by decide +kernel, (hleaves _ _ hidled).2, ys, k', hc,
    hmirrors unclean_cleansUp _ ys _ k' hcourse hc hevents.symm⟩

end ExtensionHost
