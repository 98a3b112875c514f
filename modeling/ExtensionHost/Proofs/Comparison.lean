import ExtensionHost.Proofs.Reached
import ExtensionHost.Proofs.Scan

/-!
# Comparing

What a comparison of the folders with the registry asks for: which folders need a change,
and what is registered without a folder. Under an id it asks for one change at most, and
that depends on nothing but the files and what is seen under the id.
-/

namespace ExtensionHost

variable {meant : Descriptor → Blueprint → Prop} {h h' : Host} {d : Descriptor} {i : Instance}
variable {e : Event} {id : String}

/-! ## What is seen under an id -/

/-- Under the id the same instance is registered, in the same state and with the same
context. -/
structure Host.SameUnder (id : String) (h h' : Host) : Prop where
  record : h'.record? id = h.record? id
  context : h'.registry.context? id = h.registry.context? id

theorem Host.SameUnder.trans {h'' : Host} (hs : h.SameUnder id h') (hs' : h'.SameUnder id h'') :
    h.SameUnder id h'' :=
  ⟨hs'.record.trans hs.record, hs'.context.trans hs.context⟩

theorem Host.Sound.record?_id (hs : h.Sound) (hi : h.record? id = some i) : i.id = id := by
  rcases Option.bind_eq_some_iff.mp hi with ⟨n, hn, hin⟩
  rcases hs.reports hn with ⟨j, hj, hid⟩
  cases hj.symm.trans hin
  exact hid

/-- What an instance counts as loaded from depends on what is kept under its id. -/
theorem Host.SameUnder.loadedVersion (hsame : h.SameUnder i.id h') :
    h'.loadedVersion i = h.loadedVersion i := by
  unfold Host.loadedVersion
  rw [hsame.context]

/-- What a comparison asks for under an id depends on what is seen there. -/
theorem Host.SameUnder.neededChange? (hsame : h.SameUnder e.id h') (hs : h.Sound) :
    h'.neededChange? e = h.neededChange? e := by
  unfold Host.neededChange?
  rw [hsame.record]
  cases hi : h.record? e.id with
  | none => cases e.change <;> rfl
  | some i =>
    have hloaded : h'.loadedVersion i = h.loadedVersion i := by
      apply SameUnder.loadedVersion
      rw [hs.record?_id hi]
      exact hsame
    cases e.change with
    | enable => simp only [hloaded]
    | disable | update | remove => rfl

/-! ## What folders need -/

/-- An instance is registered under the id of the description that is enabled and counts as
loaded from its version. -/
def Host.Runs (h : Host) (d : Descriptor) : Prop :=
  ∃ i : Instance, h.record? d.id = some i ∧ i.enabled = true ∧ h.loadedVersion i = d.version

/-- A folder needs no change if it is in step: what it holds runs, or is disabled where a
marker lies in it. -/
theorem Host.neededChange?_eq_none_iff :
    h.neededChange? e = none ↔ (e.change = .enable → h.Runs e.descriptor) ∧
      (e.change = .disable → ∀ i, h.record? e.id = some i → i.enabled = false) := by
  unfold neededChange? Runs
  show _ ↔ (_ → ∃ i : Instance, h.record? e.id = some i ∧ _) ∧ _
  cases h.record? e.id with
  | none => cases e.change <;> simp
  | some i =>
    cases e.change with
    | enable =>
      by_cases hloaded : h.loadedVersion i = e.descriptor.version
      · simp [hloaded]
      · simp [hloaded]
    | disable => simp
    | update | remove => simp

/-- A change that a folder needs is the one that its event names, or an update in the place of
an enabling. -/
theorem Host.change_of_neededChange? {c : Change} (hc : h.neededChange? e = some c) :
    e.change = .enable ∧ (c = .enable ∨ c = .update) ∨ e.change = .disable ∧ c = .disable := by
  unfold neededChange? at hc
  cases hchange : e.change with
  | enable =>
    refine .inl ⟨rfl, ?_⟩
    cases hi : h.record? e.id with
    | none =>
      rw [hchange, hi] at hc
      cases hc
      exact .inl rfl
    | some i =>
      rw [hchange, hi] at hc
      dsimp only at hc
      split at hc
      · cases hc
        exact .inr rfl
      split at hc
      · cases hc
        exact .inl rfl
      · cases hc
  | disable =>
    refine .inr ⟨rfl, ?_⟩
    cases hi : h.record? e.id with
    | none =>
      rw [hchange, hi] at hc
      cases hc
    | some i =>
      rw [hchange, hi] at hc
      dsimp only at hc
      split at hc
      · cases hc
        rfl
      · cases hc
  | update | remove =>
    rw [hchange] at hc
    cases hc

/-! ## What a comparison asks for -/

/-- The events of a scan of the folders. -/
def Host.scanned (h : Host) : List Event :=
  (h.settings.layout.scan h.files).1

/-- The instances that are registered are those found under some id. -/
theorem Host.mem_registered (ho : h.InOrder meant) :
    (∃ n, (n, i) ∈ h.registered) ↔ h.record? i.id = some i := by
  unfold registered
  constructor
  · rintro ⟨n, hmem⟩
    rcases List.mem_filterMap.mp hmem with ⟨⟨id, m⟩, hrecord, hsome⟩
    rcases Option.map_eq_some_iff.mp hsome with ⟨j, hj, hpair⟩
    cases hpair
    have hn : h.registry.get? id = some n := ho.ascending.lookup hrecord
    have hi : h.record? id = some i := by rw [record?, hn, Option.bind_some, hj]
    rw [ho.sound.record?_id hi]
    exact hi
  · intro hi
    rcases Option.bind_eq_some_iff.mp hi with ⟨n, hn, hin⟩
    rcases List.lookup_eq_some_iff.mp hn with ⟨before, after, hrecords, -⟩
    have hrecord : (i.id, n) ∈ h.registry.records := by
      rw [hrecords]
      exact List.mem_append_right _ List.mem_cons_self
    refine ⟨n, List.mem_filterMap.mpr ⟨(i.id, n), hrecord, ?_⟩⟩
    simp only [hin, Option.map_some]

/-- What a comparison asks for is a change that a folder needs, or a removal where the folder
is gone. -/
theorem Host.mem_reconcile (ho : h.InOrder meant) :
    e ∈ h.reconcile.1 ↔
      (∃ s ∈ h.scanned, ∃ c, h.neededChange? s = some c ∧ e = .of c s.descriptor) ∨
      ∃ i, h.record? i.id = some i ∧ i.id ∉ h.scanned.map Event.id ∧ h.isGone i = true ∧
        e = .of .remove i.descriptor := by
  unfold reconcile
  rw [List.mem_append, List.mem_filterMap]
  refine or_congr ?_ ?_
  · constructor
    · rintro ⟨s, hs, hsome⟩
      rcases Option.map_eq_some_iff.mp hsome with ⟨c, hc, rfl⟩
      exact ⟨s, hs, c, hc, rfl⟩
    · rintro ⟨s, hs, c, hc, rfl⟩
      exact ⟨s, hs, by rw [hc]; rfl⟩
  · constructor
    · intro hmem
      rcases List.mem_map.mp hmem with ⟨i, hi, rfl⟩
      rcases List.mem_filter.mp hi with ⟨hi, hcond⟩
      rcases List.mem_map.mp hi with ⟨⟨n, j⟩, hregistered, rfl⟩
      have hcond : j.id ∉ h.scanned.map Event.id ∧ h.isGone j = true := by
        simpa [scanned] using hcond
      exact ⟨j, (mem_registered ho).mp ⟨n, hregistered⟩, hcond.1, hcond.2, rfl⟩
    · rintro ⟨i, hi, hnot, hgone, rfl⟩
      rcases (mem_registered ho).mpr hi with ⟨n, hmem⟩
      refine List.mem_map.mpr ⟨i, List.mem_filter.mpr ⟨List.mem_map.mpr ⟨_, hmem, rfl⟩, ?_⟩, rfl⟩
      rw [hgone, Bool.and_true]
      simpa [scanned] using hnot

/-- A comparison asks for one change under an id. -/
theorem Host.reconcile_unique (ho : h.InOrder meant) (ht : h.files.IsNamed) :
    ∀ e ∈ h.reconcile.1, ∀ e' ∈ h.reconcile.1, e.id = e'.id → e = e' := by
  intro e he e' he' hid
  rcases (mem_reconcile ho).mp he with ⟨s, hs, c, hc, rfl⟩ | ⟨i, hi, hnot, -, rfl⟩
  · rcases (mem_reconcile ho).mp he' with ⟨s', hs', c', hc', rfl⟩ | ⟨i, -, hnot, -, rfl⟩
    · cases FolderLayout.scan_eq_of_id ht hs hs' hid
      cases hc.symm.trans hc'
      rfl
    · exact absurd (List.mem_map.mpr ⟨s, hs, hid⟩) hnot
  · rcases (mem_reconcile ho).mp he' with ⟨s', hs', c', -, rfl⟩ | ⟨i', hi', -, -, rfl⟩
    · exact absurd (List.mem_map.mpr ⟨s', hs', hid.symm⟩) hnot
    · have hsame : i.id = i'.id := hid
      rw [hsame, hi'] at hi
      cases hi
      rfl

end ExtensionHost
