import ExtensionHost.Proofs.Callers
import ExtensionHost.Proofs.Origin

/-!
# Hosts that are reached

What a host comes to when any jobs are set off on it and take their turns in any order,
while files, factories and whatever else it was set up with may change in between. Each
step of a job is a deed or is beside the lifecycle, so what deeds keep holds of every host
that is reached.
-/

namespace ExtensionHost

open Program

variable {α β : Type} {t u now n : Nat} {h h' : Host} {d : Descriptor} {i : Instance}
variable {id : String} {meant : Descriptor → Blueprint → Prop}

/-! ## Steps of jobs -/

/-- A change beside the lifecycle, of the watch or of notes that are taken. -/
structure Host.Beside (h h' : Host) : Prop where
  setup : h'.setup = h.setup
  instances : h'.instances = h.instances
  registry : h'.registry = h.registry

/-- The host has changed by a deed, or beside the lifecycle. -/
def Host.Stepped (now : Nat) (h h' : Host) : Prop :=
  (∃ x, h' = h.perform now x) ∨ h.Beside h'

/-- Every step of the program is a deed or is beside the lifecycle. -/
def Program.Steps (p : HostProgram α) : Prop :=
  p.Does Host.Stepped

theorem Program.Works.steps {allowed : Deed → Prop} {p : HostProgram α} (hw : p.Works allowed) :
    p.Steps :=
  hw.does.mono fun ⟨x, _, hx⟩ => .inl ⟨x, hx⟩

theorem handle_steps (e : Event) : (handle e).Steps :=
  (handle_works e).steps

theorem quiet_steps {p : HostProgram α} (hw : p.Works fun _ => False) : p.Steps :=
  hw.steps

theorem Host.watchTurn_beside (h : Host) (now due : Nat) : h.Beside (h.watchTurn now due).2 := by
  obtain ⟨told, ties, heq⟩ := h.watchTurn_snd now due
  rw [heq]
  exact ⟨rfl, rfl, rfl⟩

theorem watchTick_steps (due : Nat) : (watchTick due).Steps := by
  apply does_wait
  apply does_act fun now h => .inr (h.watchTurn_beside now due)
  intro turn
  cases turn with
  | told => exact does_done _
  | tick next =>
    apply does_bind pollOnce_works.steps
    intro result
    apply does_bind (quiet_steps (works_ask _))
    intro running
    cases running with
    | true => exact fun _ _ => trivial
    | false => exact does_done _

theorem watchJob_steps (nextTick : Option Nat) : (watchJob nextTick).Steps := by
  cases nextTick with
  | some due => exact watchTick_steps due
  | none =>
    apply does_bind (quiet_steps works_now)
    intro start
    apply does_bind (quiet_steps (works_ask _))
    intro interval
    apply does_bind (quiet_steps (works_ask _))
    intro running
    cases running with
    | true => exact watchTick_steps _
    | false => exact does_done _

theorem Job.program_steps (job : Job) : job.program.Steps := by
  cases job with
  | handle event => exact handle_steps event
  | drain n timeoutMs => exact does_bind (drain_works n timeoutMs).steps fun _ => does_done _
  | stop id =>
    have hw : (stopRegistered id).Works (Deed.IsCall (fun _ => True) (· = .stop)) :=
      callRegistered_works fun _ => callInstance_isCall trivial rfl
    exact does_bind hw.steps fun _ => does_done _
  | watch nextTick => exact watchJob_steps nextTick

/-! ## The registry -/

theorem mem_insertEntry {key : String} {value : β} {table : List (String × β)}
    {entry : String × β} (h : entry ∈ insertEntry key value table) :
    entry = (key, value) ∨ entry ∈ table := by
  induction table with
  | nil => exact .inl (List.mem_singleton.mp h)
  | cons e rest ih =>
    unfold insertEntry at h
    split at h
    · exact List.mem_cons.mp h
    split at h
    · rcases List.mem_cons.mp h with h | h
      · exact .inl h
      · exact .inr (List.mem_cons_of_mem _ h)
    · rcases List.mem_cons.mp h with h | h
      · exact .inr (h ▸ List.mem_cons_self)
      · exact (ih h).imp_right (List.mem_cons_of_mem _)

/-- A table in ascending order. -/
def IsAscending (table : List (String × β)) : Prop :=
  table.Pairwise fun a b => a.1 < b.1

theorem IsAscending.insertEntry {table : List (String × β)} (ht : IsAscending table) (key : String)
    (value : β) : IsAscending (insertEntry key value table) := by
  induction table with
  | nil => exact List.pairwise_singleton _ _
  | cons entry rest ih =>
    rcases List.pairwise_cons.mp ht with ⟨hfirst, hrest⟩
    unfold ExtensionHost.insertEntry
    split
    next hlt =>
      refine List.pairwise_cons.mpr ⟨List.forall_mem_cons.mpr ⟨hlt, ?_⟩, ht⟩
      exact fun other hother => String.lt_trans hlt (hfirst other hother)
    split
    next heq => exact List.pairwise_cons.mpr ⟨heq ▸ hfirst, hrest⟩
    next hlt hne =>
      refine List.pairwise_cons.mpr ⟨fun other hother => ?_, ih hrest⟩
      rcases mem_insertEntry hother with rfl | hother
      · exact Std.lt_of_le_of_ne (Std.not_lt.mp hlt) (Ne.symm hne)
      · exact hfirst other hother

theorem IsAscending.eraseEntry {table : List (String × β)} (ht : IsAscending table) (key : String) :
    IsAscending (eraseEntry key table) :=
  List.Pairwise.filter _ ht

/-- In an ascending table every entry is found under its text. -/
theorem IsAscending.lookup {table : List (String × β)} {key : String} {value : β}
    (ht : IsAscending table) (hmem : (key, value) ∈ table) : table.lookup key = some value := by
  induction table with
  | nil => cases hmem
  | cons entry rest ih =>
    rcases List.pairwise_cons.mp ht with ⟨hfirst, hrest⟩
    rcases List.mem_cons.mp hmem with rfl | hmem
    · simp
    · have hne : key ≠ entry.1 := by
        intro heq
        have hlt : entry.1 < key := hfirst (key, value) hmem
        rw [← heq] at hlt
        exact String.lt_irrefl key hlt
      rw [List.lookup_cons, beq_eq_false_iff_ne.mpr hne]
      exact ih hrest hmem

/-- The context that the registry keeps under an id is the one of the instance there. -/
def Host.Paired (h : Host) : Prop :=
  ∀ id, h.registry.context? id = (h.record? id).bind (·.context)

theorem Host.Paired.context? (hp : h.Paired) (hn : h.registry.get? id = some n)
    (hi : h.instance? n = some i) : h.registry.context? id = i.context := by
  rw [hp id, record?, hn, Option.bind_some, hi, Option.bind_some]

/-! ## Hosts in order -/

/-- What holds of a host at every time: what is registered reports its id and has its context
kept, the records stand in order, and every instance was made for a description. -/
structure Host.InOrder (meant : Descriptor → Blueprint → Prop) (h : Host) : Prop where
  sound : h.Sound
  paired : h.Paired
  ascending : IsAscending h.registry.records
  stems : h.Stems meant

/-- The host is in order again after a change, if it was before and is set up as meant. -/
structure Host.KeepsOrder (meant : Descriptor → Blueprint → Prop) (h h' : Host) : Prop where
  setup : h'.setup = h.setup
  inOrder : h.setup.Builds meant → h.InOrder meant → h'.InOrder meant

theorem Host.KeepsOrder.refl (h : Host) : h.KeepsOrder meant h :=
  ⟨rfl, fun _ ho => ho⟩

theorem Host.KeepsOrder.trans {h'' : Host} (hk : h.KeepsOrder meant h')
    (hk' : h'.KeepsOrder meant h'') : h.KeepsOrder meant h'' :=
  ⟨hk'.setup.trans hk.setup, fun hS ho => hk'.inOrder (hk.setup ▸ hS) (hk.inOrder hS ho)⟩

theorem Host.perform_ascending {x : Deed} (ha : IsAscending h.registry.records) :
    IsAscending (h.perform now x).registry.records := by
  have hspared (hs : x.SparesRegistry) : IsAscending (h.perform now x).registry.records := by
    rwa [perform_registry hs]
  cases x with
  | register id n =>
    cases hblank : isBlankText id with
    | true => rwa [perform, register_blank hblank]
    | false =>
      rw [perform, register_not_blank hblank]
      show IsAscending (h.registry.insert id n _).records
      cases (h.instance? n).bind (·.context) <;> exact ha.insertEntry id n
  | unregister id =>
    rw [perform, unregister_registry]
    exact ha.eraseEntry id
  | _ => exact hspared trivial

theorem Host.perform_paired {x : Deed} (hl : h.Linked) (hp : h.Paired) :
    (h.perform now x).Paired := by
  -- What is registered was made before the deed, and keeps the context it was made with.
  have hspared (hs : x.SparesRegistry) : (h.perform now x).Paired := by
    intro id
    rw [record?, perform_registry hs]
    cases hn : h.registry.get? id with
    | none => rw [hp id, record?, hn]; rfl
    | some n =>
      rcases hl hn with ⟨i, hi⟩
      rcases (h.perform_grew now x).instances hi with ⟨i', hi', hmake⟩
      rw [hp.context? hn hi, Option.bind_some, hi', Option.bind_some]
      exact (congrArg (·.2.1) hmake).symm
  cases x with
  | register id n =>
    cases hblank : isBlankText id with
    | true => rwa [perform, register_blank hblank]
    | false =>
      intro id'
      rw [perform, register_not_blank hblank, record?]
      simp only [notice, happen, Registry.context?_insert, Registry.get?_insert]
      split
      · rfl
      · exact hp id'
  | unregister id =>
    intro id'
    have hinstances : (h.unregister now id).2.instance? = h.instance? := by
      unfold unregister
      cases h.registry.get? id <;> rfl
    rw [perform, record?, unregister_registry, Registry.context?_erase, Registry.get?_erase]
    split
    · rfl
    · rw [hp id', record?, hinstances]
  | _ => exact hspared trivial

theorem Host.Beside.inOrder (hb : h.Beside h') (ho : h.InOrder meant) : h'.InOrder meant := by
  have hinstance : h'.instance? = h.instance? := by
    funext m
    rw [instance?, hb.instances, instance?]
  have hlater : h.Later h' := .of_eq hb.instances hb.registry
  refine ⟨hlater.sound ho.sound, fun id => ?_, hb.registry ▸ ho.ascending, fun {n i} hi => ?_⟩
  · rw [hb.registry, ho.paired id, record?, record?, hb.registry, hinstance]
  · exact ho.stems (hinstance ▸ hi)

theorem Host.Stepped.keepsOrder (hs : h.Stepped now h') (hl : h.Later h') :
    h.KeepsOrder meant h' := by
  rcases hs with ⟨x, rfl⟩ | hb
  · refine ⟨(h.perform_grew now x).setup, fun hS ho => ?_⟩
    exact ⟨hl.sound ho.sound, perform_paired ho.sound.linked ho.paired,
      perform_ascending ho.ascending, perform_stems hS ho.stems⟩
  · exact ⟨hb.setup, fun _ => hb.inOrder⟩

/-- A program of deeds that keeps the host keeps it in order, too. -/
theorem Program.Steps.keepsOrder {p : HostProgram α} (hp : p.Steps) (hk : p.KeepsHost) :
    p.Does fun _ => Host.KeepsOrder meant :=
  fun t h => wp_mono (wp_and (hp t h) (hk t h)) id (fun hboth => hboth.1.keepsOrder hboth.2)
    fun _ => trivial

/-- Undisturbed, such a program leaves the host in order. -/
theorem Program.Steps.ends_keepsOrder {p : HostProgram α} {r : Except String α} (hp : p.Steps)
    (hk : p.KeepsHost) (hends : p.Ends t h r u h') : h.KeepsOrder meant h' := by
  rcases hends with ⟨steps, hrun⟩
  apply hrun.chain Host.KeepsOrder.refl Host.KeepsOrder.trans
  intro x hx
  exact (hp.keepsOrder hk).own hrun x hx (hrun.own x hx)

/-- Handling an event keeps a host in order. -/
theorem handle_ends_keepsOrder {e : Event} {result : Except String (Except HostError Unit)}
    (hends : (handle e).Ends t h result u h') : h.KeepsOrder meant h' :=
  (handle_steps e).ends_keepsOrder (handle_keepsHost e) hends

theorem hostJobs_keepOrder : hostJobs.Keep (Host.KeepsOrder meant) :=
  ⟨fun job => job.program_steps.keepsOrder job.program_keepsHost, fun _ _ _ =>
    ⟨rfl, fun _ => Host.Beside.inOrder ⟨rfl, rfl, rfl⟩⟩⟩

/-! ## Reaching a host -/

/-- A host on which nothing has been done. -/
structure Host.IsFresh (h : Host) : Prop where
  instances : h.instances = []
  registry : h.registry = .empty
  history : h.history = []

/-- A change between the turns of jobs: whatever is set up, and whatever state instances
take, they stay what they were made as, and stay registered. -/
structure Host.Altered (h h' : Host) : Prop where
  registry : h'.registry = h.registry
  instances : ∀ n, (h'.instance? n).map Instance.make = (h.instance? n).map Instance.make

/-- The machines of a host that are reached: any jobs are set off at any time, those whose
waits are over have their turns in any order, and the host is altered in between. The
setup always is as it is meant to be. -/
inductive HostMachine.Reached (meant : Setup → Prop) : HostMachine → Prop where
  | fresh {h : Host} : h.IsFresh → meant h.setup → Reached meant (Machine.start h)
  | setOff {m : HostMachine} (own : Bool) (job : Job) :
    Reached meant m → Reached meant (m.spawn hostJobs own job)
  | turn {m : HostMachine} {a : Task Host Job (Except HostError Unit)} :
    Reached meant m → a ∈ m.tasks → m.isOver a.ready a.deadline = true →
    Reached meant (m.runTask hostJobs a)
  | passed {m : HostMachine} {time : Nat} :
    Reached meant m → m.time ≤ time → Reached meant { m with time := time }
  | altered {m : HostMachine} {h : Host} :
    Reached meant m → m.state.Altered h → meant h.setup → Reached meant { m with state := h }

/-- What is meant of the setup may be less. -/
theorem HostMachine.Reached.mono {intended intended' : Setup → Prop} {m : HostMachine}
    (hr : m.Reached intended) (hle : ∀ S, intended S → intended' S) : m.Reached intended' := by
  induction hr with
  | fresh hf hS => exact .fresh hf (hle _ hS)
  | setOff own job _ ih => exact .setOff own job ih
  | turn _ ha hover ih => exact .turn ih ha hover
  | passed _ htime ih => exact .passed ih htime
  | altered _ ha hS ih => exact .altered ih ha (hle _ hS)

theorem Host.IsFresh.inOrder (hf : h.IsFresh) : h.InOrder meant := by
  have hnone (n : Nat) : h.instance? n = none := by rw [instance?, hf.instances]; rfl
  refine ⟨sound_of_empty hf.registry, fun id => ?_, ?_, fun hi => ?_⟩
  · rw [record?, hf.registry]
    rfl
  · rw [hf.registry]
    exact .nil
  · rw [hnone] at hi
    cases hi

theorem Host.Altered.refl (h : Host) : h.Altered h :=
  ⟨rfl, fun _ => rfl⟩

theorem Host.Altered.instance? (ha : h.Altered h') (hi : h.instance? n = some i) :
    ∃ i', h'.instance? n = some i' ∧ i'.make = i.make := by
  have hmake := ha.instances n
  rw [hi, Option.map_some] at hmake
  exact Option.map_eq_some_iff.mp hmake

theorem Host.Altered.later (ha : h.Altered h') : h.Later h' :=
  .of_registered ha.instance? fun hn => .inl (ha.registry ▸ hn)

theorem Host.Altered.paired (ha : h.Altered h') (hl : h.Linked) (hp : h.Paired) : h'.Paired := by
  intro id
  rw [ha.registry, record?, ha.registry]
  cases hn : h.registry.get? id with
  | none => rw [hp id, record?, hn]; rfl
  | some n =>
    rcases hl hn with ⟨i, hi⟩
    rcases ha.instance? hi with ⟨i', hi', hmake⟩
    rw [hp.context? hn hi, Option.bind_some, hi', Option.bind_some]
    exact (congrArg (·.2.1) hmake).symm

theorem Host.Altered.inOrder (ha : h.Altered h') (ho : h.InOrder meant) : h'.InOrder meant := by
  refine ⟨ha.later.sound ho.sound, ha.paired ho.sound.linked ho.paired,
    ha.registry ▸ ho.ascending, fun {n i} hi => ?_⟩
  have hmake := (ha.instances n).symm
  rw [hi, Option.map_some] at hmake
  rcases Option.map_eq_some_iff.mp hmake with ⟨i₀, hi₀, hmake⟩
  rcases ho.stems hi₀ with ⟨d, hd⟩
  exact ⟨d, hd.of_make hmake.symm⟩

/-- A host that is reached is in order. -/
theorem HostMachine.Reached.inOrder {m : HostMachine} (hr : m.Reached (·.Builds meant)) :
    m.state.setup.Builds meant ∧ m.state.InOrder meant ∧ m.Keeps (Host.KeepsOrder meant) := by
  induction hr with
  | fresh hf hS => exact ⟨hS, hf.inOrder, .start _⟩
  | setOff own job _ ih =>
    rcases ih with ⟨hS, ho, hk⟩
    exact ⟨hS, ho, hk.spawn hostJobs_keepOrder own job⟩
  | turn _ ha hover ih =>
    rcases ih with ⟨hS, ho, hk⟩
    rcases runTask_seen hostJobs_keepOrder hk ha hover with ⟨hk', xs, hxs⟩
    have hkept := hxs.chain Host.KeepsOrder.refl Host.KeepsOrder.trans hxs.of_others
    exact ⟨hkept.setup ▸ hS, hkept.inOrder hS ho, hk'⟩
  | passed _ hle ih =>
    rcases ih with ⟨hS, ho, hk⟩
    exact ⟨hS, ho, hk.later _ hle⟩
  | altered _ ha hS ih =>
    rcases ih with ⟨-, ho, hk⟩
    exact ⟨hS, ha.inOrder ho, hk.later _ (Nat.le_refl _)⟩

/-- The setup of a host that is reached is as it is meant to be. -/
theorem HostMachine.Reached.setup {intended : Setup → Prop} {m : HostMachine}
    (hr : m.Reached intended) : intended m.state.setup := by
  induction hr with
  | fresh _ hS => exact hS
  | setOff own job _ ih => exact ih
  | turn hm ha hover ih =>
    rcases (hm.mono fun S _ => S.builds_anything).inOrder with ⟨-, -, hk⟩
    rcases runTask_seen hostJobs_keepOrder hk ha hover with ⟨-, xs, hxs⟩
    have hkept := hxs.chain Host.KeepsOrder.refl Host.KeepsOrder.trans hxs.of_others
    exact hkept.setup ▸ ih
  | passed _ _ ih => exact ih
  | altered _ _ hS _ => exact hS

end ExtensionHost
