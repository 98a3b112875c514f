import ExtensionHost.Proofs.TakeOut

/-!
# What a drain makes of an instance

An instance changes only when it is called or switched, and nothing but a switch enables or
disables it. The lifecycle never enables an instance again. So what a drain has disabled
stays so to its end, whether the drain succeeds or not.
-/

namespace ExtensionHost

open Program

variable {α : Type} {allowed : Deed → Prop} {t u now n : Nat} {h h' : Host} {i : Instance}
variable {p q : HostProgram α} {steps : List (Step Host)}

/-! ## Instances -/

/-- What a deed makes of the instance with a number. -/
def Deed.effect (now n : Nat) (i : Instance) : Deed → Instance
  | .beginCall m call => if m = n then i.callBegun call else i
  | .endCall m call ending => if m = n then i.callEnded call ending else i
  | .switch m enabled => if m = n then i.setEnabled now enabled else i
  | _ => i

theorem Host.perform_instance?_of_some (hi : h.instance? n = some i) (x : Deed) :
    (h.perform now x).instance? n = some (x.effect now n i) := by
  have hmodify (m : Nat) (f : Instance → Instance) :
      (h.modifyInstance m f).instance? n = some (if m = n then f i else i) := by
    rw [instance?_modifyInstance, hi]
    split <;> rfl
  cases x with
  | beginCall m call =>
    cases hm : h.instance? m with
    | some j =>
      rw [perform, beginCall_some hm]
      exact hmodify m (·.callBegun call)
    | none =>
      have hne : m ≠ n := by
        rintro rfl
        rw [hi] at hm
        cases hm
      rw [perform, beginCall_none hm, Deed.effect, if_neg hne]
      exact hi
  | endCall m call ending => exact hmodify m (·.callEnded call ending)
  | switch m enabled => exact hmodify m (·.setEnabled now enabled)
  | build d =>
    rcases (h.build_makes now d).built with ⟨made, hb⟩
    exact hb.instance?_eq hi
  | register id m =>
    cases hblank : isBlankText id with
    | true =>
      rw [perform, register_blank hblank]
      exact hi
    | false =>
      rw [perform, register_not_blank hblank]
      exact hi
  | unregister id =>
    cases hm : h.registry.get? id with
    | none =>
      rw [perform, unregister_none hm]
      exact hi
    | some m =>
      rw [perform, unregister_some hm]
      exact hi
  | nothing | notice | callGateway | runHook => exact hi

/-- Only a switch enables or disables. -/
theorem Deed.enabled_effect {x : Deed} (hx : ∀ enabled, x ≠ .switch n enabled) :
    (x.effect now n i).enabled = i.enabled := by
  cases x with
  | beginCall m call =>
    simp only [effect]
    split <;> rfl
  | endCall m call ending =>
    simp only [effect]
    split
    · exact i.enabled_callEnded call ending
    · rfl
  | switch m enabled =>
    simp only [effect]
    split
    next heq => exact absurd (by rw [heq]) (hx enabled)
    next => rfl
  | _ => rfl

/-! ## What is off -/

/-- The instance with the number is there, and is disabled. -/
def Host.IsOff (h : Host) (n : Nat) : Prop :=
  ∃ i : Instance, h.instance? n = some i ∧ i.enabled = false

theorem Host.perform_isOff {x : Deed} (ho : h.IsOff n) (hx : x ≠ .switch n true) :
    (h.perform now x).IsOff n := by
  rcases ho with ⟨i, hi, hoff⟩
  refine ⟨_, perform_instance?_of_some hi x, ?_⟩
  by_cases hswitch : x = .switch n false
  · rw [hswitch, Deed.effect, if_pos rfl]
    rfl
  · rw [Deed.enabled_effect]
    · exact hoff
    · intro enabled
      cases enabled with
      | true => exact hx
      | false => exact hswitch

/-- How much of a run is seen in what it leaves of an instance: where it was disabled, it is
off, and what is off stays so. -/
structure Host.SwitchedOff (n : Nat) (h h' : Host) : Prop where
  grew : h.Grew h'
  stays : h.IsOff n → h'.IsOff n
  switched : (∃ i : Instance, h.instance? n = some i) → .switched n false ∈ h'.since h → h'.IsOff n

theorem Host.SwitchedOff.refl (h : Host) : h.SwitchedOff n h := by
  refine ⟨.refl h, fun ho => ho, fun _ hmem => ?_⟩
  rw [since_eq (List.append_nil _).symm] at hmem
  cases hmem

theorem Host.SwitchedOff.trans {h'' : Host} (hs : h.SwitchedOff n h')
    (hs' : h'.SwitchedOff n h'') : h.SwitchedOff n h'' := by
  refine ⟨hs.grew.trans hs'.grew, fun ho => hs'.stays (hs.stays ho), fun hi hmem => ?_⟩
  rcases hs.grew.past with ⟨xs, hxs⟩
  rcases hs'.grew.past with ⟨ys, hys⟩
  have hboth : h''.past = h.past ++ (xs ++ ys) := by rw [hys, hxs, List.append_assoc]
  rw [since_eq hboth] at hmem
  rcases List.mem_append.mp hmem with hmem | hmem
  · exact hs'.stays (hs.switched hi (since_eq hxs ▸ hmem))
  · rcases hi with ⟨i, hi⟩
    rcases hs.grew.instances hi with ⟨i', hi', -⟩
    exact hs'.switched ⟨i', hi'⟩ (since_eq hys ▸ hmem)

theorem Host.perform_switchedOff {x : Deed} (hx : x ≠ .switch n true) :
    h.SwitchedOff n (h.perform now x) := by
  refine ⟨h.perform_grew now x, fun ho => perform_isOff ho hx, fun hi hmem => ?_⟩
  rcases h.perform_past now x with ⟨new, hpast, hnew⟩
  rw [since_eq hpast] at hmem
  rcases hi with ⟨i, hi⟩
  refine ⟨_, perform_instance?_of_some hi x, ?_⟩
  rw [Deed.leaves_switched.mp (hnew _ hmem), Deed.effect, if_pos rfl]
  rfl

/-- A program that never enables the instance leaves it off where it has disabled it. -/
theorem Program.Works.switchedOff (hw : p.Works allowed) (hnever : ¬ allowed (.switch n true))
    (hrun : p.Run Undisturbed t h steps q u h') : h.SwitchedOff n h' := by
  apply hw.undisturbed hrun Host.SwitchedOff.refl Host.SwitchedOff.trans
  intro h now x hx
  apply Host.perform_switchedOff
  rintro rfl
  exact hx.elim id hnever

theorem Deed.IsQuieting.not_enables {m : Nat} : ¬ Deed.IsQuieting m (.switch n true) := by
  rintro ⟨-, hno⟩
  cases hno

theorem Deed.IsDraining.not_enables {m : Nat} : ¬ Deed.IsDraining m (.switch n true) := by
  rintro (hquieting | hstop)
  · exact IsQuieting.not_enables hquieting
  · exact hstop

/-! ## Drains -/

/-- An instance that has been made quiet is off. -/
theorem quiet_ends_isOff {j : Instance} {timeoutMs : Nat} {a : Unit} (hi : h.instance? n = some i)
    (hends : (quiet j n timeoutMs).Ends t h (.ok a) u h') :
    h'.IsOff n ∧ h'.registry = h.registry := by
  have hw := quiet_works j n timeoutMs
  rcases hends with ⟨steps, hrun⟩
  refine ⟨?_, hw.registry (fun _ => Deed.IsQuieting.sparesRegistry) hrun⟩
  apply (hw.switchedOff Deed.IsQuieting.not_enables hrun).switched ⟨i, hi⟩
  rw [Host.since_eq (hw.past_eq hrun)]
  exact quiet_done_switched hrun

/-- A drain that has come to its end leaves its instance off, and registers and takes out
nothing. -/
theorem drain_ends_isOff {timeoutMs : Nat} {r : Except LifecycleError Unit}
    (hi : h.instance? n = some i) (hends : (drain n timeoutMs).Ends t h (.ok r) u h') :
    h'.IsOff n ∧ h'.registry = h.registry := by
  have hw := drain_works n timeoutMs
  rcases hends with ⟨steps, hrun⟩
  refine ⟨?_, hw.registry (fun _ => Deed.IsDraining.sparesRegistry) hrun⟩
  apply (hw.switchedOff Deed.IsDraining.not_enables hrun).switched ⟨i, hi⟩
  rw [Host.since_eq (hw.past_eq hrun)]
  exact drain_done_switched hrun hi

end ExtensionHost
