import ExtensionHost.Proofs.Comparison
import ExtensionHost.Proofs.Enabling
import ExtensionHost.Proofs.Tally

/-!
# In step with the folders

What holds of the registry where a comparison asks for nothing. What a folder holds is
registered, enabled and loaded from the version in its manifest, and what a marker lies with
is disabled. A comparison does not look at starts and stops: what could not be started is
registered all the same, and what could not be stopped counts as disabled.
-/

namespace ExtensionHost

open Program

variable {t u n : Nat} {h h' : Host} {d : Descriptor} {i : Instance} {e : Event}

/-! ## Hosts on which events are handled -/

/-- How an instance stands: what it was made as, and whether it is enabled and started. -/
def Instance.standing (i : Instance) : (Descriptor × Option Context × Conduct) × Bool × Bool :=
  (i.make, i.enabled, i.started)

/-- What happens to a host between events: whatever is set up, written or noticed, the
registry and the history stay, and every instance stands as it did. -/
structure Host.Rested (h h' : Host) : Prop where
  registry : h'.registry = h.registry
  past : h'.past = h.past
  instances : ∀ n, (h'.instance? n).map Instance.standing = (h.instance? n).map Instance.standing

/-- A host on which nothing has been done but to handle events, one after another, each to its
end or until it broke down. -/
inductive Host.Handled : Host → Prop where
  | fresh {h : Host} : h.IsFresh → Handled h
  | handled {h h' : Host} {e : Event} {t u : Nat} {r} :
    Handled h → (handle e).Ends t h r u h' → Handled h'
  | rested {h h' : Host} : Handled h → h.Rested h' → Handled h'

theorem Host.Rested.altered (hr : h.Rested h') : h.Altered h' := by
  refine ⟨hr.registry, fun n => ?_⟩
  have hmake := congrArg (Option.map Prod.fst) (hr.instances n)
  rw [Option.map_map, Option.map_map] at hmake
  exact hmake

theorem Host.IsFresh.tallied (hf : h.IsFresh) : h.Tallied := by
  have hpast : h.past = [] := by simp [past, hf.history]
  refine ⟨sound_of_empty hf.registry, fun n hmem => ?_, fun {id n i} hn => ?_⟩
  · rw [HasStarted, HasStopped, hpast] at hmem
    rcases hmem with hmem | hmem <;> cases hmem
  · rw [hf.registry] at hn
    cases hn

theorem Host.Rested.tallied (hr : h.Rested h') (ht : h.Tallied) : h'.Tallied := by
  have hback {n i'} (hi' : h'.instance? n = some i') :
      ∃ i, h.instance? n = some i ∧ i.standing = i'.standing := by
    have hstanding := hr.instances n
    rw [hi', Option.map_some] at hstanding
    exact Option.map_eq_some_iff.mp hstanding.symm
  have hforth {n i} (hi : h.instance? n = some i) :
      ∃ i', h'.instance? n = some i' ∧ i'.make = i.make := by
    have hmake := hr.altered.instances n
    rw [hi, Option.map_some] at hmake
    exact Option.map_eq_some_iff.mp hmake
  have hlater : h.Later h' := .of_registered hforth fun hn => .inl (hr.registry ▸ hn)
  refine ⟨hlater.sound ht.sound, fun n hmem => ?_, fun {id n i'} hn hi' => ?_⟩
  · rw [HasStarted, HasStopped, hr.past] at hmem
    rcases ht.known n hmem with ⟨i, hi⟩
    rcases hforth hi with ⟨i', hi', -⟩
    exact ⟨i', hi'⟩
  · rcases hback hi' with ⟨i, hi, hstanding⟩
    have henabled : i.enabled = i'.enabled := congrArg (·.2.1) hstanding
    have hstarted : i.started = i'.started := congrArg (·.2.2) hstanding
    have hv := ht.vouched (hr.registry ▸ hn) hi
    refine ⟨hr.past ▸ hv.answered, ?_, ?_⟩
    · rw [HasStarted, HasStopped, hr.past, ← hstarted]
      exact hv.started
    · rw [HasStopped, hr.past, ← henabled]
      exact hv.enabled

theorem Host.Handled.tallied (hh : h.Handled) : h.Tallied := by
  induction hh with
  | fresh hf => exact hf.tallied
  | handled _ hends ih => exact handle_tallied _ ih hends
  | rested _ hr ih => exact hr.tallied ih

theorem Host.Handled.inOrder (hh : h.Handled) : h.InOrder fun _ _ => True := by
  induction hh with
  | fresh hf => exact hf.inOrder
  | handled _ hends ih =>
    have hkeeps : Host.KeepsOrder (fun _ _ => True) _ _ := handle_ends_keepsOrder hends
    exact hkeeps.inOrder (Setup.builds_anything _) ih
  | rested _ hr ih => exact hr.altered.inOrder ih

/-! ## Where nothing is asked for -/

/-- What a folder holds has been brought in: it is registered and enabled, it counts as loaded
from the version of the description, for which it was made unless it exposes no context, and
it is started if its start has succeeded. -/
structure Host.Serves (h : Host) (d : Descriptor) (n : Nat) (i : Instance) : Prop where
  registered : h.registry.get? d.id = some n
  there : h.instance? n = some i
  enabled : i.enabled = true
  loaded : h.loadedVersion i = d.version
  made : i.context.isSome → ∃ d₀, i.StemsFrom (fun _ _ => True) d₀ ∧ d₀.version = d.version
  answered : ∃ ending, .ended n .start ending ∈ h.past
  started : i.started = true ↔ h.HasStarted n

/-- What was registered under an id is out of use: it is disabled, and it is stopped unless its
start has succeeded and no stop has. -/
structure Host.Retires (h : Host) (n : Nat) (i : Instance) : Prop where
  disabled : i.enabled = false
  started : i.started = true ↔ h.HasStarted n ∧ ¬ h.HasStopped n

theorem Instance.StemsFrom.version_of_context {meant : Descriptor → Blueprint → Prop}
    (hi : i.StemsFrom meant d) (hcontext : i.context.isSome) :
    i.context.bind (·.sourceVersion) = some d.version := by
  rcases hi with ⟨-, b, context, hmake, hversion, -⟩
  have heq : i.context = if b.exposesContext then some context else none :=
    congrArg (·.2.1) hmake
  rw [heq] at hcontext ⊢
  split
  · exact hversion
  next hno => simp [hno] at hcontext

/-- Where a comparison asks for nothing, what every folder holds has been brought in, unless a
marker lies in the folder. Then it is out of use. -/
theorem Host.Handled.reconcile_nil (hh : h.Handled) (hnone : h.reconcile.1 = []) :
    ∀ e ∈ h.scanned,
      (e.change = .enable → ∃ n i, h.Serves e.descriptor n i) ∧
      (e.change = .disable → ∀ n i, h.registry.get? e.id = some n → h.instance? n = some i →
        h.Retires n i) := by
  have ho := hh.inOrder
  have ht := hh.tallied
  intro e he
  have hneeded : h.neededChange? e = none := by
    cases hc : h.neededChange? e with
    | none => rfl
    | some c =>
      have hmem := (mem_reconcile ho).mpr (.inl ⟨e, he, c, hc, rfl⟩)
      rw [hnone] at hmem
      cases hmem
  rcases neededChange?_eq_none_iff.mp hneeded with ⟨henable, hdisable⟩
  refine ⟨fun hchange => ?_, fun hchange n i hn hi => ?_⟩
  · rcases henable hchange with ⟨i, hrecord, henabled, hloaded⟩
    rcases Option.bind_eq_some_iff.mp hrecord with ⟨n, hn, hi⟩
    have hv := ht.vouched hn hi
    refine ⟨n, i, hn, hi, henabled, hloaded, fun hcontext => ?_, hv.answered, ?_⟩
    · rcases ho.stems hi with ⟨d₀, hstems⟩
      refine ⟨d₀, hstems, ?_⟩
      rw [← hloaded]
      have hid : i.id = e.descriptor.id := ho.sound.record?_id hrecord
      have hkept : h.registry.context? i.id = i.context := ho.paired.context? (hid ▸ hn) hi
      exact (loadedVersion_of_context hkept (hstems.version_of_context hcontext)).symm
    · rw [hv.started]
      exact and_iff_left (hv.enabled henabled)
  · have hrecord : h.record? e.id = some i := by rw [record?, hn, Option.bind_some, hi]
    exact ⟨hdisable hchange i hrecord, (ht.vouched hn hi).started⟩

/-! ## Small hosts -/

/-- A host with a folder of an extension that answers its calls so. -/
private def folderOf (respond : Call → List Call → Response) : Host :=
  (Host.serving LifecyclePolicy.default (.uniform "e" { Conduct.idle with respond := respond }
    .zero) ["a"]).describing "a" "id: a\nversion: 2.0.0\nentry_point: e\n"

/-- The description in the folder. -/
private def inFolder : Descriptor :=
  { Descriptor.at "e" "a" with version := "2.0.0", folder := ⟨"extensions/a"⟩ }

/-- The host after an event has been handled. -/
private def Host.after (h : Host) (change : Change) : Host :=
  ((handle (.of change inFolder)).alone 7 h).2.2.2

/-- The host after a marker has been put into the folder. -/
private def Host.marked (h : Host) : Host :=
  { h with files := h.files.write ⟨"extensions/a/.disabled"⟩ (.file []) }

private theorem folderOf_handled (respond : Call → List Call → Response) :
    (folderOf respond).Handled :=
  .fresh ⟨rfl, rfl, rfl⟩

private theorem Host.Handled.after (hh : h.Handled) (change : Change) :
    (h.after change).Handled := by
  rcases (handle_works (.of change inFolder)).timed.alone_ends 7 h with ⟨r, hends⟩
  exact .handled hh hends

private theorem Host.Handled.marked (hh : h.Handled) : h.marked.Handled :=
  .rested hh ⟨rfl, rfl, fun _ => rfl⟩

/-- What a folder holds has been brought in once it has been enabled. -/
theorem reconcile_nil_of_enabled :
    ((folderOf fun _ _ => .immediate).after .enable).reconcile.1 = [] ∧
      ∃ n i, ((folderOf fun _ _ => .immediate).after .enable).Serves inFolder n i := by
  have hh := (folderOf_handled fun _ _ => .immediate).after .enable
  have hnone : ((folderOf fun _ _ => .immediate).after .enable).reconcile.1 = [] := by
    decide +kernel
  have hscanned : .of .enable inFolder ∈
      ((folderOf fun _ _ => .immediate).after .enable).scanned := by decide +kernel
  exact ⟨hnone, (Host.Handled.reconcile_nil hh hnone _ hscanned).1 rfl⟩

/-- The answers of an extension on which one kind of call fails. -/
private def failing (call : Call) : Call → List Call → Response :=
  fun call' _ => if call' = call then ⟨0, .failed ⟨"no", []⟩⟩ else .immediate

/-- A host on which an extension was enabled whose start fails. -/
private def unstarted : Host :=
  (folderOf (failing .start)).after .enable

/-- A host on which an extension was enabled and, since a marker lies in its folder, disabled
again, though its stop fails. -/
private def unstopped : Host :=
  (((folderOf (failing .stop)).after .enable).marked).after .disable

/-- What is seen of the instance that is registered: whether it is enabled and started. -/
private def Host.standing? (h : Host) : Option (Bool × Bool) :=
  (h.record? "a").map fun i => (i.enabled, i.started)

/-- A comparison asks for nothing where an extension that has no marker is not started, since
its start has failed, nor where one with a marker is not stopped, since its stop has failed. -/
theorem reconcile_nil_though_start_or_stop_failed :
    (unstarted.Handled ∧ unstarted.reconcile.1 = [] ∧
      unstarted.scanned = [.of .enable inFolder] ∧ inFolder.hasEntryPoint = true ∧
      unstarted.standing? = some (true, false)) ∧
    unstopped.Handled ∧ unstopped.reconcile.1 = [] ∧
      unstopped.scanned = [.of .disable inFolder] ∧ unstopped.standing? = some (false, true) := by
  have hunstarted : unstarted.Handled := (folderOf_handled _).after .enable
  have hunstopped : unstopped.Handled :=
    (((folderOf_handled _).after .enable).marked).after .disable
  exact ⟨⟨hunstarted, by decide +kernel⟩, hunstopped, by decide +kernel⟩

end ExtensionHost
