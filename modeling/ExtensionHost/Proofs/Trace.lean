import ExtensionHost.Proofs.Work

/-!
# Traces of lifecycle programs

What the steps of a run do to the host, seen from outside: what a program itself
leaves in the history, and what it keeps of the registry. It follows from the
deeds that the program does.
-/

namespace ExtensionHost

open Program

variable {α : Type} {allowed : Deed → Prop} {others : Host → Host → Prop}
variable {p q : HostProgram α} {t u : Nat} {h h' : Host} {steps xs ys pre : List (Step Host)}
variable {x : Step Host}

/-! ## What a program itself leaves in the history -/

/-- What a step of a run leaves in the history. -/
def Step.adds (x : Step Host) : List Happening :=
  x.after.since x.before

theorem Step.adds_eq {new : List Happening} (hpast : x.after.past = x.before.past ++ new) :
    x.adds = new :=
  Host.since_eq hpast

theorem Step.adds_eq_nil (hpast : x.after.past = x.before.past) : x.adds = [] :=
  Step.adds_eq (hpast.trans (List.append_nil _).symm)

/-- What the own steps of a run leave in the history. -/
def ownHappenings (steps : List (Step Host)) : List Happening :=
  (steps.filter (·.own)).flatMap Step.adds

@[simp] theorem ownHappenings_nil : ownHappenings [] = [] := rfl

@[simp] theorem ownHappenings_append :
    ownHappenings (xs ++ ys) = ownHappenings xs ++ ownHappenings ys := by
  simp [ownHappenings]

theorem ownHappenings_cons (hown : x.own = true) :
    ownHappenings (x :: xs) = x.adds ++ ownHappenings xs := by
  simp [ownHappenings, hown]

theorem mem_ownHappenings {w : Happening} :
    w ∈ ownHappenings steps ↔ ∃ x ∈ steps, x.own = true ∧ w ∈ x.adds := by
  simp [ownHappenings, and_assoc]

/-- An own step leaves in the history what an allowed deed leaves there. -/
theorem Program.Works.adds (hw : p.Works allowed) (hrun : p.Run others t h steps q u h') :
    ∀ x ∈ steps, x.own = true → ∀ w ∈ x.adds, ∃ d, allowed d ∧ d.Leaves w := by
  intro x hx hown w hmem
  obtain ⟨d, hd, hafter⟩ := hw.does.own hrun x hx hown
  obtain ⟨new, hpast, hnew⟩ := x.before.perform_past x.time d
  rw [Step.adds, hafter, Host.since_eq hpast] at hmem
  exact ⟨d, hd.resolve_left fun hquiet => hquiet.not_leaves (hnew w hmem), hnew w hmem⟩

/-- A step that the program comes to leaves what an allowed deed leaves. -/
theorem Program.Works.reaches_adds (hw : p.Works allowed) (hr : p.Reaches others t h pre x)
    (hown : x.own = true) : ∀ w ∈ x.adds, ∃ d, allowed d ∧ d.Leaves w := by
  obtain ⟨q, u, h', hrun⟩ := hr
  exact hw.adds hrun x (by simp) hown

/-- What the own steps of a run leave in the history allowed deeds leave there. -/
theorem Program.Works.left (hw : p.Works allowed) (hrun : p.Run others t h steps q u h') :
    ∀ w ∈ ownHappenings steps, ∃ d, allowed d ∧ d.Leaves w := by
  intro w hmem
  obtain ⟨x, hx, hown, hadds⟩ := mem_ownHappenings.mp hmem
  exact hw.adds hrun x hx hown w hadds

/-- A program whose deeds leave nothing in the history leaves nothing there. -/
theorem Program.Works.ownHappenings_eq (hw : p.Works allowed)
    (hnone : ∀ d w, allowed d → ¬ d.Leaves w) (hrun : p.Run others t h steps q u h') :
    ownHappenings steps = [] := by
  refine List.eq_nil_iff_forall_not_mem.mpr fun w hmem => ?_
  obtain ⟨d, hd, hleaves⟩ := hw.left hrun w hmem
  exact hnone d w hd hleaves

/-! ## What a program keeps -/

/-- A program that leaves the registry alone does so in each of its steps. -/
theorem Program.Works.own_registry (hw : p.Works allowed)
    (hspares : ∀ d, allowed d → d.SparesRegistry) (hrun : p.Run others t h steps q u h') :
    ∀ x ∈ steps, x.own = true → x.after.registry = x.before.registry := by
  intro x hx hown
  obtain ⟨d, hd, hafter⟩ := hw.does.own hrun x hx hown
  rw [hafter, Host.perform_registry (hd.elim Deed.IsQuiet.sparesRegistry (hspares d))]

/-- Where the others keep to what may become of a host, it comes to no more than that
with a program that leaves the registry alone. -/
theorem Program.Works.later (hw : p.Works allowed) (hspares : ∀ d, allowed d → d.SparesRegistry)
    (hrun : p.Run Host.Later t h steps q u h') : h.Later h' := by
  refine hrun.chain Host.Later.refl Host.Later.trans fun x hx => ?_
  -- A step of the others keeps the host by assumption, an own one because it is a deed.
  cases hown : x.own with
  | false => exact hrun.of_others x hx hown
  | true =>
    obtain ⟨d, hd, hafter⟩ := hw.does.own hrun x hx hown
    rw [hafter]
    exact Host.perform_later (hd.elim Deed.IsQuiet.sparesRegistry (hspares d)).fits

/-! ## Runs that nobody disturbs -/

/-- The deeds of a run that nobody disturbs, one after another. -/
theorem Program.Works.undisturbed {R : Host → Host → Prop} (hw : p.Works allowed)
    (hrun : p.Run Undisturbed t h steps q u h') (hrefl : ∀ h, R h h)
    (htrans : ∀ {a b c}, R a b → R b c → R a c)
    (hdeed : ∀ h now d, d.IsQuiet ∨ allowed d → R h (h.perform now d)) : R h h' := by
  refine hrun.chain hrefl htrans fun x hx => ?_
  obtain ⟨d, hd, hafter⟩ := hw.does.own hrun x hx (hrun.own x hx)
  exact hafter ▸ hdeed x.before x.time d hd

/-- What a run leaves in the history, if nobody disturbs it, is its own. -/
theorem Program.Works.past_eq (hw : p.Works allowed)
    (hrun : p.Run Undisturbed t h steps q u h') : h'.past = h.past ++ ownHappenings steps := by
  have hadds : ∀ x ∈ steps, x.after.past = x.before.past ++ x.adds := by
    intro x hx
    obtain ⟨d, -, hafter⟩ := hw.does.own hrun x hx (hrun.own x hx)
    obtain ⟨new, hpast, -⟩ := x.before.perform_past x.time d
    rw [← hafter] at hpast
    rw [Step.adds_eq hpast, hpast]
  -- The program changes from step to step; what its steps add is all that is still needed.
  clear hw
  induction hrun with
  | rest => simp
  | act _ ih =>
    obtain ⟨hx, hrest⟩ := List.forall_mem_cons.mp hadds
    rw [ih hrest, hx, ownHappenings_cons rfl, List.append_assoc]
  | waits hm =>
    obtain ⟨rfl, rfl, -⟩ := hm.of_undisturbed
    simp
  | wakes hm _ _ ih =>
    obtain ⟨rfl, rfl, -⟩ := hm.of_undisturbed
    exact ih hadds
  | spawn _ ih => exact ih hadds

theorem Program.Works.grew (hw : p.Works allowed)
    (hrun : p.Run Undisturbed t h steps q u h') : h.Grew h' :=
  hw.undisturbed hrun Host.Grew.refl Host.Grew.trans fun h now d _ => h.perform_grew now d

theorem Program.Works.ends_grew {r : Except String α} (hw : p.Works allowed)
    (hends : p.Ends t h r u h') : h.Grew h' := by
  obtain ⟨steps, hrun⟩ := hends
  exact hw.grew hrun

theorem Program.Works.registry (hw : p.Works allowed)
    (hspares : ∀ d, allowed d → d.SparesRegistry) (hrun : p.Run Undisturbed t h steps q u h') :
    h'.registry = h.registry := by
  refine hw.undisturbed (R := fun a b => b.registry = a.registry) hrun (fun _ => rfl)
    (fun hab hbc => hbc.trans hab) fun h now d hd => ?_
  exact Host.perform_registry (hd.elim Deed.IsQuiet.sparesRegistry (hspares d))

/-- What has happened in a run that nobody disturbs is what allowed deeds leave. -/
theorem Program.Works.past (hw : p.Works allowed) (hrun : p.Run Undisturbed t h steps q u h') :
    ∃ new, h'.past = h.past ++ new ∧ ∀ w ∈ new, ∃ d, allowed d ∧ d.Leaves w := by
  refine hw.undisturbed hrun
    (R := fun a b => ∃ new, b.past = a.past ++ new ∧ ∀ w ∈ new, ∃ d, allowed d ∧ d.Leaves w)
    (fun h => ⟨[], by simp⟩) ?_ fun h now d hd => ?_
  · rintro a b c ⟨xs, hxs, hxs'⟩ ⟨ys, hys, hys'⟩
    exact ⟨xs ++ ys, by rw [hys, hxs, List.append_assoc], List.forall_mem_append.mpr ⟨hxs', hys'⟩⟩
  · obtain ⟨new, hpast, hnew⟩ := h.perform_past now d
    exact ⟨new, hpast, fun w hw =>
      ⟨d, hd.resolve_left fun hquiet => hquiet.not_leaves (hnew w hw), hnew w hw⟩⟩

/-- What a program that has come to its end has kept and left, if its deeds leave the
registry alone. -/
theorem Program.Works.ends {r : Except String α} (hw : p.Works allowed)
    (hspares : ∀ d, allowed d → d.SparesRegistry) (hends : p.Ends t h r u h') :
    h'.registry = h.registry ∧ h.Grew h' ∧
      ∃ new, h'.past = h.past ++ new ∧ ∀ w ∈ new, ∃ d, allowed d ∧ d.Leaves w := by
  obtain ⟨steps, hrun⟩ := hends
  exact ⟨hw.registry hspares hrun, hw.grew hrun, hw.past hrun⟩

end ExtensionHost
