import ExtensionHost.Proofs.Comparison
import ExtensionHost.Proofs.Draining
import ExtensionHost.Proofs.Enabling
import ExtensionHost.Proofs.Frame

/-!
# Convergence

Every change that a comparison asks for brings about, if it succeeds, just that under its
id which the comparison looks for, and it leaves all other ids alone. So where no change has
failed, the registry and the folders are in step, and the next comparison asks for nothing.
-/

namespace ExtensionHost

open Program

variable {meant : Descriptor → Blueprint → Prop} {t u n : Nat} {h h' : Host} {d : Descriptor}
variable {i : Instance} {e : Event} {id id' : String} {events : List Event} {r r' : BatchResult}

/-! ## What a change brings about -/

theorem Host.SparesOthers.sameUnder (ho : h.SparesOthers id h') (hs : h.Sound) (hne : id' ≠ id) :
    h.SameUnder id' h' := by
  refine ⟨?_, ho.contexts hne⟩
  rw [record?, record?, ho.records hne]
  cases hn : h.registry.get? id' with
  | none => rfl
  | some n =>
    rcases hs.reports hn with ⟨i, hi, hid⟩
    rw [Option.bind_some, Option.bind_some, hi]
    exact ho.instances hi (hid ▸ hne)

/-- What an event asks for has come about under its id. -/
def Host.InStep (h : Host) (e : Event) : Prop :=
  match e.change with
  | .enable | .update => h.Runs e.descriptor
  | .disable => ∀ i, h.record? e.id = some i → i.enabled = false
  | .remove => h.record? e.id = none

theorem Host.InStep.of_same (hi : h.InStep e) (hsame : h.SameUnder e.id h') (hs : h.Sound) :
    h'.InStep e := by
  have hruns (hr : h.Runs e.descriptor) : h'.Runs e.descriptor := by
    rcases hr with ⟨i, hi, henabled, hloaded⟩
    refine ⟨i, hsame.record.trans hi, henabled, ?_⟩
    rw [SameUnder.loadedVersion]
    · exact hloaded
    · rw [hs.record?_id hi]
      exact hsame
  unfold InStep at hi ⊢
  cases hc : e.change with
  | enable | update =>
    rw [hc] at hi
    exact hruns hi
  | disable | remove =>
    rw [hc] at hi
    rw [hsame.record]
    exact hi

theorem Host.Brings.runs {ending : Ending} (hb : h.Brings meant d ending h')
    (hexposes : ∀ d b, meant d b → b.exposesContext = true) : h'.Runs d := by
  rcases hb.registered with ⟨i, hnew, hget, hi, hcontext, -⟩
  refine ⟨i, ?_, hnew.enabled, ?_⟩
  · rw [record?, hget]
    exact hi
  · apply loadedVersion_of_context
    · rw [hnew.id]
      exact hcontext
    · exact hnew.stems.sourceVersion hexposes

theorem Host.Runs.of_eq (hr : h.Runs d) (hreg : h'.registry = h.registry)
    (hinstances : h'.instances = h.instances) : h'.Runs d := by
  rcases hr with ⟨i, hi, henabled, hloaded⟩
  refine ⟨i, ?_, henabled, ?_⟩
  · unfold record? instance? at hi ⊢
    rw [hreg, hinstances]
    exact hi
  · unfold loadedVersion at hloaded ⊢
    rw [hreg]
    exact hloaded

theorem enable_ok_runs (hS : h.setup.Builds meant)
    (hexposes : ∀ d b, meant d b → b.exposesContext = true) (hentry : d.hasEntryPoint = true)
    (hid : isBlankText d.id = false) (hends : (enable d).Ends t h (.ok (.ok ())) u h') :
    h'.Runs d := by
  rcases enable_ends hS hentry hid hends with ⟨e, -, hno, -⟩ | ⟨ending, r, -, -, hb⟩
  · cases hno
  · exact hb.runs hexposes

theorem update_ok_runs (hS : h.setup.Builds meant)
    (hexposes : ∀ d b, meant d b → b.exposesContext = true) (hentry : d.hasEntryPoint = true)
    (hid : isBlankText d.id = false) (hends : (update d).Ends t h (.ok (.ok ())) u h') :
    h'.Runs d := by
  rcases ends_bind_ok.mp hends with ⟨found, t₁, h₁, hfound, hrest⟩
  obtain ⟨hasked, rfl, rfl⟩ := ends_ask.mp hfound
  cases hn : h₁.registry.get? d.id with
  | none =>
    rw [hn] at hasked
    cases hasked
    exact enable_ok_runs hS hexposes hentry hid hrest
  | some n =>
    cases hi : h₁.instance? n with
    | none =>
      simp only [hn, hi, Option.bind_some, Option.map_none] at hasked
      cases hasked
      exact enable_ok_runs hS hexposes hentry hid hrest
    | some old =>
      simp only [hn, hi, Option.bind_some, Option.map_some] at hasked
      cases hasked
      rcases updateRegistered_ends hrest with ⟨drained, t₂, h₂, hdrained, hrest⟩
      rcases hrest with ⟨e, v, -, hno, -⟩ | ⟨rfl, htaken⟩
      · cases hno
      · rcases cleared_of_drained hn hi hdrained htaken with ⟨t₃, h₃, hcleared, hreplaced⟩
        have hS₃ : h₃.setup.Builds meant := hcleared.setup ▸ hS
        rcases replaceWith_ok hS₃ hid hreplaced with ⟨h₄, hb, hreg, hinstances⟩
        exact (hb.runs hexposes).of_eq hreg hinstances

theorem disable_ends_off {r : Except HostError Unit} (hs : h.Sound)
    (hends : (disable d).Ends t h (.ok r) u h') :
    ∀ i, h'.record? d.id = some i → i.enabled = false := by
  intro i hi
  rcases ends_bind_ok.mp hends with ⟨found, t₁, h₁, hfound, hrest⟩
  obtain ⟨hasked, rfl, rfl⟩ := ends_ask.mp hfound
  cases hasked
  cases hn : h₁.registry.get? d.id with
  | none =>
    rw [hn] at hrest
    obtain ⟨-, -, rfl⟩ := ends_done.mp hrest
    rw [Host.record?, hn] at hi
    cases hi
  | some n =>
    rw [hn] at hrest
    rcases ends_bind_ok.mp hrest with ⟨timeoutMs, t₂, h₂, hasked, hdrained⟩
    obtain ⟨-, rfl, rfl⟩ := ends_ask.mp hasked
    rcases ends_bind_ok.mp hdrained with ⟨drained, t₃, h₃, hdrain, hdone⟩
    obtain ⟨-, -, rfl⟩ := ends_done.mp hdone
    rcases hs.linked hn with ⟨j, hj⟩
    rcases drain_ends_isOff hj hdrain with ⟨⟨k, hk, hoff⟩, hreg⟩
    rw [Host.record?, hreg, hn, Option.bind_some, hk] at hi
    cases hi
    exact hoff

theorem remove_ends_gone {r : Except HostError Unit}
    (hends : (remove d).Ends t h (.ok r) u h') : h'.record? d.id = none := by
  rcases ends_bind_ok.mp hends with ⟨found, t₁, h₁, hfound, hrest⟩
  obtain ⟨hasked, rfl, rfl⟩ := ends_ask.mp hfound
  cases hasked
  cases hn : h₁.registry.get? d.id with
  | none =>
    rw [hn] at hrest
    obtain ⟨-, -, rfl⟩ := ends_done.mp hrest
    rw [Host.record?, hn]
    rfl
  | some n =>
    rw [hn] at hrest
    rcases ends_bind_ok.mp hrest with ⟨timeoutMs, t₂, h₂, -, hrest⟩
    rcases ends_bind_ok.mp hrest with ⟨drained, t₃, h₃, -, hrest⟩
    rcases ends_bind_ok.mp hrest with ⟨_, t₄, h₄, -, hrest⟩
    rcases ends_bind_ok.mp hrest with ⟨_, t₅, h₅, htaken, hrest⟩
    obtain ⟨-, rfl, rfl⟩ := ends_done.mp (ends_act.mp htaken)
    -- Nothing of what comes after registers anything.
    have hreg : h'.registry = (h₄.unregister t₅ d.id).2.registry :=
      ((removeTaken_works d n).ends (fun _ => Deed.IsRemoving.sparesRegistry) hrest).1
    rw [Host.record?, hreg, Host.unregister_registry, Registry.get?_erase, if_pos rfl]
    rfl

/-- Whether there is something to build for an event that brings in a version. -/
def Event.IsReady (e : Event) : Prop :=
  e.change = .enable ∨ e.change = .update →
    e.descriptor.hasEntryPoint = true ∧ isBlankText e.id = false

/-- An event that succeeds brings about what it asks for. -/
theorem handle_ok_inStep (hS : h.setup.Builds meant) (hs : h.Sound)
    (hexposes : ∀ d b, meant d b → b.exposesContext = true) (hready : e.IsReady)
    (hends : (handle e).Ends t h (.ok (.ok ())) u h') : h'.InStep e := by
  unfold handle at hends
  unfold Host.InStep
  cases hc : e.change with
  | enable =>
    rw [hc] at hends
    rcases hready (.inl hc) with ⟨hentry, hid⟩
    exact enable_ok_runs hS hexposes hentry hid hends
  | update =>
    rw [hc] at hends
    rcases hready (.inr hc) with ⟨hentry, hid⟩
    exact update_ok_runs hS hexposes hentry hid hends
  | disable =>
    rw [hc] at hends
    exact disable_ends_off hs hends
  | remove =>
    rw [hc] at hends
    exact remove_ends_gone hends

/-! ## A batch -/

theorem handleEach_cons_ends {rest : List Event}
    (hends : (handleEach (e :: rest) r).Ends t h (.ok r') u h') :
    ∃ result t₁ h₁ notices, (handle e).Ends t h (.ok result) t₁ h₁ ∧
      (handleEach rest (r.record e.id HostError.message result)).Ends t₁ (h₁.notice notices)
        (.ok r') u h' := by
  rcases ends_bind_ok.mp hends with ⟨result, t₁, h₁, hhandle, hrest⟩
  rcases ends_bind_ok.mp hrest with ⟨_, t₂, h₂, hnote, hrest⟩
  cases result with
  | ok _ =>
    obtain ⟨-, rfl, rfl⟩ := ends_done.mp hnote
    exact ⟨_, t₂, h₂, [], hhandle, hrest⟩
  | error failure =>
    obtain ⟨-, rfl, rfl⟩ := ends_change.mp hnote
    exact ⟨_, t₂, h₁, _, hhandle, hrest⟩

/-- Handling an event keeps what is seen under other ids. -/
theorem handle_ends_sameUnder {result : Except String (Except HostError Unit)} (hs : h.Sound)
    (hne : id ≠ e.id) (hends : (handle e).Ends t h result u h') : h.SameUnder id h' := by
  rcases hends with ⟨steps, hrun⟩
  exact (handle_run_sparesOthers hrun hs).sameUnder hs hne

theorem Host.InOrder.notice (ho : h.InOrder meant) (notices : List Notice) :
    (h.notice notices).InOrder meant := by
  have hbeside : h.Beside (h.notice notices) := ⟨rfl, rfl, rfl⟩
  exact hbeside.inOrder ho

theorem BatchResult.mem_failed_record {result : Except HostError Unit} :
    id' ∈ (r.record id HostError.message result).failed ↔
      if id' = id then ∃ failure, result = .error failure else id' ∈ r.failed := by
  cases result with
  | ok _ => by_cases hid : id' = id <;> simp [record, recordSuccess, hid]
  | error failure => by_cases hid : id' = id <;> simp [record, recordFailure, hid]

/-- A batch leaves alone what none of its events is about. -/
theorem handleEach_spares (hS : h.setup.Builds meant) (ho : h.InOrder meant)
    (hid : ∀ e ∈ events, e.id ≠ id) (hends : (handleEach events r).Ends t h (.ok r') u h') :
    h.SameUnder id h' ∧ (id ∈ r'.failed ↔ id ∈ r.failed) := by
  induction events generalizing t h r with
  | nil =>
    obtain ⟨hr, -, rfl⟩ := ends_done.mp hends
    cases hr
    exact ⟨⟨rfl, rfl⟩, Iff.rfl⟩
  | cons e rest ih =>
    rcases List.forall_mem_cons.mp hid with ⟨hne, hrest⟩
    rcases handleEach_cons_ends hends with ⟨result, t₁, h₁, notices, hhandle, hends⟩
    have hkeeps : h.KeepsOrder meant h₁ := handle_ends_keepsOrder hhandle
    have hsame := handle_ends_sameUnder ho.sound hne.symm hhandle
    have hS₁ : (h₁.notice notices).setup.Builds meant := hkeeps.setup ▸ hS
    have ho₁ := (hkeeps.inOrder hS ho).notice notices
    rcases ih hS₁ ho₁ hrest hends with ⟨hsame', hfailed⟩
    have hnoted : h₁.SameUnder id (h₁.notice notices) := ⟨rfl, rfl⟩
    refine ⟨(hsame.trans hnoted).trans hsame', ?_⟩
    rw [hfailed, BatchResult.mem_failed_record, if_neg hne.symm]

/-- A batch brings about what its events ask for, but for those that fail. -/
theorem handleEach_inStep (hS : h.setup.Builds meant) (ho : h.InOrder meant)
    (hexposes : ∀ d b, meant d b → b.exposesContext = true)
    (hready : ∀ e ∈ events, e.IsReady)
    (hunique : ∀ e ∈ events, ∀ e' ∈ events, e.id = e'.id → e = e')
    (hends : (handleEach events r).Ends t h (.ok r') u h') :
    ∀ e ∈ events, e.id ∉ r'.failed → h'.InStep e := by
  induction events generalizing t h r with
  | nil =>
    intro e hmem
    cases hmem
  | cons e rest ih =>
    rcases List.forall_mem_cons.mp hready with ⟨he, hrest⟩
    rcases handleEach_cons_ends hends with ⟨result, t₁, h₁, notices, hhandle, hends⟩
    have hkeeps : h.KeepsOrder meant h₁ := handle_ends_keepsOrder hhandle
    have hS₁ : (h₁.notice notices).setup.Builds meant := hkeeps.setup ▸ hS
    have ho₁ := (hkeeps.inOrder hS ho).notice notices
    have hih := ih hS₁ ho₁ hrest (fun a ha b hb =>
      hunique a (List.mem_cons_of_mem e ha) b (List.mem_cons_of_mem e hb)) hends
    intro a hmem hfailed
    by_cases hlater : ∃ b ∈ rest, b.id = a.id
    · -- The last event of the id is the one that counts, and it is the same.
      rcases hlater with ⟨b, hb, hid⟩
      have hab := hunique b (List.mem_cons_of_mem e hb) a hmem hid
      exact hih a (hab ▸ hb) hfailed
    · have hothers : ∀ b ∈ rest, b.id ≠ a.id := fun b hb hid => hlater ⟨b, hb, hid⟩
      rcases List.mem_cons.mp hmem with rfl | hmem
      · rcases handleEach_spares hS₁ ho₁ hothers hends with ⟨hsame, hiff⟩
        rw [hiff, BatchResult.mem_failed_record, if_pos rfl] at hfailed
        cases result with
        | error failure => exact absurd ⟨failure, rfl⟩ hfailed
        | ok _ =>
          have hstep : h₁.InStep a := handle_ok_inStep hS ho.sound hexposes he hhandle
          have hnoted : h₁.SameUnder a.id (h₁.notice notices) := ⟨rfl, rfl⟩
          exact hstep.of_same (hnoted.trans hsame) (hkeeps.inOrder hS ho).sound
      · exact absurd rfl (hothers a hmem)

/-! ## Convergence -/

/-- Where what a folder needed has come about, it needs nothing any more. -/
theorem Host.InStep.neededChange? {s : Event} {c : Change} (hc : h.neededChange? s = some c)
    (hstep : h'.InStep (.of c s.descriptor)) : h'.neededChange? s = none := by
  apply neededChange?_eq_none_iff.mpr
  rcases change_of_neededChange? hc with ⟨hchange, rfl | rfl⟩ | ⟨hchange, rfl⟩
  · exact ⟨fun _ => hstep, by simp [hchange]⟩
  · exact ⟨fun _ => hstep, by simp [hchange]⟩
  · exact ⟨by simp [hchange], fun _ => hstep⟩

/-- Where all that a comparison asks for has come about, and nothing else has changed, the
next one asks for nothing. -/
theorem Host.reconcile_settled (ho : h.InOrder meant) (ho' : h'.InOrder meant)
    (hsetup : h'.setup = h.setup) (ht : h.files.IsNamed)
    (hstep : ∀ e ∈ h.reconcile.1, h'.InStep e)
    (hsame : ∀ id, (∀ e ∈ h.reconcile.1, e.id ≠ id) → h.SameUnder id h') :
    h'.reconcile.1 = [] := by
  have hsettings : h'.settings = h.settings := congrArg Setup.settings hsetup
  have hfiles : h'.files = h.files := congrArg Setup.files hsetup
  have hscanned : h'.scanned = h.scanned := by rw [scanned, hsettings, hfiles, scanned]
  have hisGone : h'.isGone = h.isGone := by
    funext i
    rw [isGone, hsettings, hfiles, isGone]
  apply List.eq_nil_iff_forall_not_mem.mpr
  intro e he
  rcases (mem_reconcile ho').mp he with ⟨s, hs, c, hc, rfl⟩ | ⟨i, hi, hnot, hgone, rfl⟩
  · rw [hscanned] at hs
    suffices hnone : h'.neededChange? s = none by
      rw [hnone] at hc
      cases hc
    cases hneeded : h.neededChange? s with
    | some c =>
      exact (hstep _ ((mem_reconcile ho).mpr (.inl ⟨s, hs, c, hneeded, rfl⟩))).neededChange? hneeded
    | none =>
      rw [← hneeded]
      apply SameUnder.neededChange? (hsame s.id ?_) ho.sound
      -- No other folder has the same id, and no removal is about what was scanned.
      intro e' he' hid
      rcases (mem_reconcile ho).mp he' with ⟨s', hs', c, hc, rfl⟩ | ⟨i, -, hnot, -, rfl⟩
      · cases FolderLayout.scan_eq_of_id ht hs' hs hid
        rw [hneeded] at hc
        cases hc
      · exact hnot (List.mem_map.mpr ⟨s, hs, hid.symm⟩)
  · rw [hscanned] at hnot
    rw [hisGone] at hgone
    by_cases hasked : ∃ e' ∈ h.reconcile.1, e'.id = i.id
    · rcases hasked with ⟨e', he', hid⟩
      rcases (mem_reconcile ho).mp he' with ⟨s, hs, c, hc, rfl⟩ | ⟨j, -, -, -, rfl⟩
      · exact hnot (List.mem_map.mpr ⟨s, hs, hid⟩)
      · have hremoved : h'.record? j.id = none := hstep _ he'
        have hid : j.id = i.id := hid
        rw [hid, hi] at hremoved
        cases hremoved
    · -- What nothing was asked of is as it was, and would have been asked to go before.
      have hothers : ∀ e' ∈ h.reconcile.1, e'.id ≠ i.id := fun e' he' hid => hasked ⟨e', he', hid⟩
      have hi₀ : h.record? i.id = some i := (hsame i.id hothers).record ▸ hi
      have hremoval : Event.of .remove i.descriptor ∈ h.reconcile.1 :=
        (mem_reconcile ho).mpr (.inr ⟨i, hi₀, hnot, hgone, rfl⟩)
      exact hothers _ hremoval rfl

theorem pollOnce_ends {result : Except String BatchResult} :
    pollOnce.Ends t h result u h' ↔
      (handleEach h.reconcile.1 .empty).Ends t (h.notice h.reconcile.2) result u h' := by
  exact ends_act

/-- A pass after which no id counts as failed has brought the registry and the folders in
step. The next comparison asks for nothing, so the next pass only notes what the scan notices:
it calls nothing and leaves the registry alone. -/
theorem pollOnce_converges {m : HostMachine}
    (hm : m.Reached (·.Builds fun _ b => b.exposesContext = true))
    (hnamed : m.state.files.IsNamed)
    (hentry : ∀ e ∈ m.state.scanned, e.change = .enable → e.descriptor.hasEntryPoint = true)
    (hends : pollOnce.Ends t m.state (.ok r) u h') (hr : r.failed = []) :
    h'.reconcile.1 = [] ∧ ∀ t' result u' h'', pollOnce.Ends t' h' result u' h'' ↔
      result = .ok .empty ∧ u' = t' ∧ h'' = h'.notice h'.reconcile.2 := by
  rcases hm.inOrder with ⟨hS, ho, -⟩
  generalize m.state = h at hnamed hentry hends hS ho
  have hbatch := pollOnce_ends.mp hends
  let noted := h.notice h.reconcile.2
  have hS₀ : noted.setup.Builds fun _ b => b.exposesContext = true := hS
  have ho₀ : noted.InOrder fun _ b => b.exposesContext = true := ho.notice h.reconcile.2
  have hkeeps : noted.KeepsOrder (fun _ b => b.exposesContext = true) h' :=
    (handleEach_works _ _).steps.ends_keepsOrder (handleEach_keepsHost _ _) hbatch
  have hready : ∀ e ∈ h.reconcile.1, e.IsReady := by
    intro e he
    rcases (Host.mem_reconcile ho).mp he with ⟨s, hs, c, hc, rfl⟩ | ⟨i, -, -, -, rfl⟩
    · intro hbrings
      rcases Host.change_of_neededChange? hc with ⟨henable, -⟩ | ⟨-, rfl⟩
      · exact ⟨hentry s hs henable, (FolderLayout.scan_change hs).2⟩
      · rcases hbrings with hno | hno <;> cases hno
    · intro hbrings
      rcases hbrings with hno | hno <;> cases hno
  have hnone : h'.reconcile.1 = [] := by
    apply Host.reconcile_settled ho (hkeeps.inOrder hS ho₀) hkeeps.setup hnamed
    · intro e he
      have hunique := Host.reconcile_unique ho hnamed
      apply handleEach_inStep hS₀ ho₀ (fun _ _ hb => hb) hready hunique hbatch e he
      rw [hr]
      exact List.not_mem_nil
    · intro id hid
      have hsame := (handleEach_spares hS₀ ho₀ hid hbatch).1
      exact ⟨hsame.record, hsame.context⟩
  refine ⟨hnone, fun t' result u' h'' => ?_⟩
  rw [pollOnce_ends, hnone]
  exact ends_done

/-- A manifest on disk makes no difference for what factories may build. -/
theorem Host.describing_builds {id manifest : String} (hS : h.setup.Builds meant) :
    (h.describing id manifest).setup.Builds meant :=
  ⟨hS.table, hS.libraries⟩

/-- A host with a folder in which there is a new extension. -/
private def newFolder : Host :=
  (Host.serving LifecyclePolicy.default (.uniform "e" .idle .zero) ["a"]).describing "a"
    "id: a\nversion: 2.0.0\nentry_point: e\n"

/-- A pass enables what is in a new folder, and then the registry and the folder are in step. -/
theorem pollOnce_of_new_folder_converges :
    let run := pollOnce.alone 7 newFolder
    newFolder.reconcile.1.map (fun e => (e.id, e.change)) = [("a", .enable)] ∧
      run.2.1 = done (BatchResult.empty.recordSuccess "a") ∧ run.2.2.2.reconcile.1 = [] := by
  have hasked : newFolder.reconcile.1.map (fun e => (e.id, e.change)) = [("a", .enable)] := by
    decide +kernel
  have hnamed : newFolder.files.IsNamed := by decide +kernel
  have hentry : ∀ e ∈ newFolder.scanned, e.change = .enable →
      e.descriptor.hasEntryPoint = true := by decide +kernel
  have hvalue : (pollOnce.alone 7 newFolder).2.1.value? =
      some (BatchResult.empty.recordSuccess "a") := by decide +kernel
  have hends := ends_of_value? hvalue
  have hS : newFolder.setup.Builds fun _ b => b.exposesContext = true := by
    unfold newFolder
    exact Host.describing_builds (Host.serving_builds (Factory.uniform_builds fun _ => rfl))
  have hm : HostMachine.Reached (·.Builds fun _ b => b.exposesContext = true)
      (Machine.start newFolder) := .fresh ⟨rfl, rfl, rfl⟩ hS
  exact ⟨hasked, eq_done_of_value? hvalue, (pollOnce_converges hm hnamed hentry hends rfl).1⟩

end ExtensionHost
