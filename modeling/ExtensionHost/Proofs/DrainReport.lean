import ExtensionHost.Proofs.CallerTurns

/-!
# What the drain of all instances reports

Each registered instance is drained in a task of its own, and the caller records the ends
of these tasks one by one, in the order in which they come, until all have ended or the
deadline has come. Whatever becomes of the tasks, the report accounts for every registered
id.
-/

namespace ExtensionHost

open Program

variable {α : Type} {h : Host} {m m' : HostMachine} {T D : Nat}
variable {rest rest' : List (Nat × String)} {r r' : DrainReport}

/-! ## Tasks with numbers -/

/-- The elements of a list with numbers in a row. -/
def numberFrom (first : Nat) : List α → List (Nat × α)
  | [] => []
  | a :: rest => (first, a) :: numberFrom (first + 1) rest

@[simp] theorem numberFrom_snd {first : Nat} {as : List α} :
    (numberFrom first as).map (·.2) = as := by
  induction as generalizing first with
  | nil => rfl
  | cons a as ih => simp [numberFrom, ih]

theorem numberFrom_fst {first : Nat} {as : List α} :
    (numberFrom first as).map (·.1) = List.range' first as.length := by
  induction as generalizing first with
  | nil => rfl
  | cons a as ih => simp [numberFrom, ih, List.range'_succ]

/-- The machine after a job has been set off for each element of a list. -/
def HostMachine.spawnAll (own : Bool) (job : α → Job) : List α → HostMachine → HostMachine
  | [], m => m
  | a :: rest, m => spawnAll own job rest (m.spawn hostJobs own (job a))

@[simp] theorem HostMachine.spawnAll_state {own : Bool} {job : α → Job} {as : List α} :
    (m.spawnAll own job as).state = m.state := by
  induction as generalizing m with
  | nil => rfl
  | cons a as ih => exact ih

@[simp] theorem HostMachine.spawnAll_time {own : Bool} {job : α → Job} {as : List α} :
    (m.spawnAll own job as).time = m.time := by
  induction as generalizing m with
  | nil => rfl
  | cons a as ih => exact ih

theorem spawnEach_runTurn (own : Bool) (job : α → Job) (as : List α) (m : HostMachine) :
    (spawnEach own job as).runTurn hostJobs m =
      (.done (numberFrom m.nextNumber as), m.spawnAll own job as) := by
  induction as generalizing m with
  | nil => rfl
  | cons a as ih =>
    simp only [spawnEach, runTurn, runTurn_bind, ih]
    rfl

/-! ## Recording what has ended -/

/-- On a host, the end of one drain is recorded: the first one there is among the tasks. -/
inductive Collect (h : Host) :
    List (Nat × String) × DrainReport → List (Nat × String) × DrainReport → Prop where
  | record {rest : List (Nat × String)} {r : DrainReport} {number : Nat} {id : String}
      {outcome : TaskOutcome} : h.firstEnded? rest = some (number, id, outcome) →
      Collect h (rest, r) (rest.filter (·.1 != number), (r.record id outcome).1)

/-- On a host, the ends of some drains are recorded. -/
def Collects (h : Host) :
    List (Nat × String) × DrainReport → List (Nat × String) × DrainReport → Prop :=
  Relation.ReflTransGen (Collect h)

/-- What is noticed has nothing to do with what has ended. -/
theorem Collects.of_notice {ns : List Notice} {a b : List (Nat × String) × DrainReport}
    (hc : Collects (h.notice ns) a b) : Collects h a b := by
  refine Relation.ReflTransGen.mono (fun a b hstep => ?_) a b hc
  cases hstep with
  | record hfirst => exact .record hfirst

theorem Host.firstEnded?_some {number : Nat} {id : String} {outcome : TaskOutcome}
    (hfirst : h.firstEnded? rest = some (number, id, outcome)) :
    (number, id) ∈ rest ∧ (number, outcome) ∈ h.outcomes := by
  obtain ⟨entry, hentry, hlookup⟩ := List.exists_of_findSome?_eq_some hfirst
  obtain ⟨id', hid, heq⟩ := Option.map_eq_some_iff.mp hlookup
  cases heq
  obtain ⟨before, after, hrest, -⟩ := List.lookup_eq_some_iff.mp hid
  exact ⟨by simp [hrest], List.mem_reverse.mp hentry⟩

theorem Host.hasEnded_of_mem {number : Nat} {outcome : TaskOutcome}
    (hmem : (number, outcome) ∈ h.outcomes) : h.hasEnded number = true := by
  unfold hasEnded outcome?
  cases hlookup : h.outcomes.lookup number with
  | some _ => rfl
  | none => exact absurd rfl (bne_iff_ne.mp (List.lookup_eq_none_iff.mp hlookup _ hmem))

/-- What is not waited for any more has ended. -/
theorem Collects.left (hc : Collects h (rest, r) (rest', r')) :
    (∀ e ∈ rest', e ∈ rest) ∧ ∀ e ∈ rest, e ∈ rest' ∨ h.hasEnded e.1 = true := by
  generalize hfirst : (rest, r) = first at hc
  generalize hlast : (rest', r') = last at hc
  induction hc generalizing rest' r' with
  | refl =>
    cases hfirst
    cases hlast
    exact ⟨fun _ he => he, fun _ he => .inl he⟩
  | tail _ hstep ih =>
    cases hstep with
    | @record mid rmid number id outcome hended =>
      cases hlast
      obtain ⟨hsub, hall⟩ := ih rfl
      obtain ⟨-, hmem⟩ := Host.firstEnded?_some hended
      refine ⟨fun e he => hsub e (List.mem_filter.mp he).1, fun e he => ?_⟩
      obtain hmid | hended := hall e he
      · by_cases heq : e.1 = number
        · exact .inr (heq ▸ Host.hasEnded_of_mem hmem)
        · exact .inl (List.mem_filter.mpr ⟨hmid, bne_iff_ne.mpr heq⟩)
      · exact .inr hended

theorem Host.firstEnded?_none (hnone : h.firstEnded? rest = none) {number : Nat} {id : String}
    (hmem : (number, id) ∈ rest) : h.hasEnded number = false := by
  cases hended : h.hasEnded number with
  | false => rfl
  | true =>
    obtain ⟨outcome, hout⟩ := Option.isSome_iff_exists.mp hended
    obtain ⟨before, after, hout, -⟩ := List.lookup_eq_some_iff.mp hout
    have hfound : rest.lookup number = none := by
      simpa using List.findSome?_eq_none_iff.mp hnone (number, outcome) (by simp [hout])
    have hne := List.lookup_eq_none_iff.mp hfound (number, id) hmem
    simp at hne

/-- One task less is waited for. -/
theorem perm_of_firstEnded? {number : Nat} {id : String} (hnodup : (rest.map (·.1)).Nodup)
    (hmem : (number, id) ∈ rest) :
    ((number, id) :: rest.filter (·.1 != number)).Perm rest := by
  induction rest with
  | nil => exact absurd hmem List.not_mem_nil
  | cons entry rest ih =>
    obtain ⟨hnot, hrest⟩ := List.nodup_cons.mp hnodup
    obtain rfl | htail := List.mem_cons.mp hmem
    · have hkeeps : rest.filter (fun other => other.1 != number) = rest := by
        refine List.filter_eq_self.mpr fun other hother => ?_
        refine bne_iff_ne.mpr fun heq => hnot ?_
        exact List.mem_map.mpr ⟨other, hother, heq⟩
      simp [hkeeps]
    · have hne : entry.1 ≠ number := by
        rintro rfl
        exact hnot (List.mem_map.mpr ⟨_, htail, rfl⟩)
      rw [List.filter_cons_of_pos (by simpa using hne)]
      exact (List.Perm.swap _ _ _).trans ((ih hrest htail).cons entry)

/-- How a turn of the caller that records drains stops: all are recorded, or the deadline has
come, or it waits for the others until then. -/
inductive Collected (m : HostMachine) (D T : Nat) (rest : List (Nat × String)) (r : DrainReport) :
    Stop Host Job DrainReport → Prop where
  | all {r' : DrainReport} : Collects m.state (rest, r) ([], r') → Collected m D T rest r (.done r')
  | abandoned {rest' : List (Nat × String)} {r' : DrainReport} :
      Collects m.state (rest, r) (rest', r') → rest' ≠ [] → m.state.firstEnded? rest' = none →
      D ≤ m.time → Collected m D T rest r (.done r'.abandon)
  | waits {rest' : List (Nat × String)} {r' : DrainReport} {ready : Host → Bool}
      {next : HostProgram DrainReport} : Collects m.state (rest, r) (rest', r') → m.time < D →
      collectDrains D T rest'.length rest' r' = wait ready (some D) next →
      Collected m D T rest r (.waits ready (some D) next)

theorem Collected.head {ns : List Notice} {stop : Stop Host Job DrainReport}
    (hstep : Collect m.state (rest, r) (rest', r'))
    (hc : Collected { m with state := m.state.notice ns } D T rest' r' stop) :
    Collected m D T rest r stop := by
  cases hc with
  | all hcollects => exact .all (.head hstep hcollects.of_notice)
  | abandoned hcollects hne hnone htime =>
    exact .abandoned (.head hstep hcollects.of_notice) hne hnone htime
  | waits hcollects htime hwait => exact .waits (.head hstep hcollects.of_notice) htime hwait

/-- A turn of the caller records what has ended, and takes note of what went wrong. -/
theorem collectDrains_runTurn (D T : Nat) (rest : List (Nat × String)) (r : DrainReport)
    (hnodup : (rest.map (·.1)).Nodup) (m : HostMachine) :
    Collected m D T rest r ((collectDrains D T rest.length rest r).runTurn hostJobs m).1 ∧
      ∃ ns, ((collectDrains D T rest.length rest r).runTurn hostJobs m).2 =
        { m with state := m.state.notice ns } := by
  -- The tasks that are left decide how often the caller comes back to the wait.
  generalize hleft : rest.length = left
  induction left generalizing rest r m with
  | zero =>
    obtain rfl := List.length_eq_zero_iff.mp hleft
    exact ⟨.all .refl, [], rfl⟩
  | succ left ih =>
    have hne : rest ≠ [] := by
      rintro rfl
      cases hleft
    cases hover : m.isOver (fun h => (h.firstEnded? rest).isSome) (some D) with
    | false =>
      obtain ⟨hnone, htime⟩ := Bool.or_eq_false_iff.mp hover
      rw [collectDrains]
      simp only [runTurn, hover, Bool.false_eq_true, if_false]
      refine ⟨.waits .refl (by simpa using htime) ?_, [], rfl⟩
      rw [hleft]
      rfl
    | true =>
      cases hfirst : m.state.firstEnded? rest with
      | some found =>
        obtain ⟨number, id, outcome⟩ := found
        obtain ⟨hmem, -⟩ := Host.firstEnded?_some hfirst
        have hperm := perm_of_firstEnded? hnodup hmem
        have hlength : (rest.filter (·.1 != number)).length = left := by
          have := hperm.length_eq
          simp only [List.length_cons] at this
          omega
        have hturn : (collectDrains D T (left + 1) rest r).runTurn hostJobs m =
            (collectDrains D T left (rest.filter (·.1 != number)) (r.record id outcome).1).runTurn
              hostJobs { m with state := m.state.notice (r.record id outcome).2 } := by
          rw [collectDrains, runTurn_wait_of_isOver hover]
          simp only [ask, noteAll, change, Program.bind, runTurn, hfirst]
        obtain ⟨hcollected, ns, hstate⟩ :=
          ih _ _ (hnodup.sublist (List.filter_sublist.map _)) _ hlength
        rw [hturn]
        refine ⟨.head (.record hfirst) hcollected, (r.record id outcome).2 ++ ns, ?_⟩
        rw [hstate]
        simp [Host.notice]
      | none =>
        have htime : D ≤ m.time := by simpa [Machine.isOver, hfirst] using hover
        have hturn : (collectDrains D T (left + 1) rest r).runTurn hostJobs m =
            (.done r.abandon, { m with state := (m.state.notice
              [.drainsAbandoned (.allTimeout T) r.abandon.unfinished]) }) := by
          rw [collectDrains, runTurn_wait_of_isOver hover]
          simp only [ask, note, noteAll, change, Program.bind, runTurn, hfirst]
        rw [hturn]
        exact ⟨.abandoned .refl hne hfirst htime, _, rfl⟩

/-! ## Accounts -/

/-- While drains are recorded, every issued id is recorded once or still waited for. -/
structure DrainReport.Accounts (r : DrainReport) (rest : List (Nat × String)) : Prop where
  once : r.issued.Nodup
  partition : (r.completed ++ r.failed.map (·.1) ++ rest.map (·.2)).Perm r.issued
  unfinished : r.unfinished = []
  timedOut : r.timedOut = false

theorem DrainReport.Accounts.start {issued : List (Nat × String)}
    (hnodup : (issued.map (·.2)).Nodup) :
    (DrainReport.start (issued.map (·.2))).Accounts issued :=
  ⟨hnodup, .refl _, rfl, rfl⟩

/-- A new key comes into a table beside those that are there. -/
theorem perm_insertEntry {β : Type} {key : String} {value : β} {table : List (String × β)}
    (hnew : key ∉ table.map (·.1)) :
    ((insertEntry key value table).map (·.1)).Perm (key :: table.map (·.1)) := by
  induction table with
  | nil => exact .refl _
  | cons entry table ih =>
    obtain ⟨hne, hnew⟩ := not_or.mp (mt List.mem_cons.mpr hnew)
    unfold insertEntry
    rw [if_neg hne]
    split
    · exact .refl _
    · exact ((ih hnew).cons entry.1).trans (.swap _ _ _)

/-- The end of a drain is recorded as a completion or as a failure, under its id. -/
theorem DrainReport.record_cases (r : DrainReport) (id : String) (outcome : TaskOutcome) :
    (r.record id outcome).1 = { r with completed := r.completed ++ [id] } ∨
      ∃ reason, (r.record id outcome).1 = { r with failed := insertEntry id reason r.failed } := by
  unfold record
  split
  · exact .inl rfl
  all_goals exact .inr ⟨_, rfl⟩

theorem DrainReport.Accounts.collect (ha : r.Accounts rest) (hnodup : (rest.map (·.1)).Nodup)
    (hc : Collect h (rest, r) (rest', r')) : r'.Accounts rest' ∧ r'.issued = r.issued := by
  cases hc with
  | @record _ _ number id outcome hfirst =>
    obtain ⟨hmem, -⟩ := Host.firstEnded?_some hfirst
    have hperm := (perm_of_firstEnded? hnodup hmem).map (·.2)
    have hpart : (r.completed ++ r.failed.map (·.1) ++
        (id :: (rest.filter (·.1 != number)).map (·.2))).Perm r.issued :=
      ((List.Perm.refl _).append hperm).trans ha.partition
    obtain hrecord | ⟨reason, hrecord⟩ := r.record_cases id outcome
    · rw [hrecord]
      refine ⟨⟨ha.once, .trans ?_ hpart, ha.unfinished, ha.timedOut⟩, rfl⟩
      simp only [List.append_assoc, List.singleton_append]
      exact (List.Perm.refl _).append List.perm_middle.symm
    · rw [hrecord]
      have hnew : id ∉ r.failed.map (·.1) := by
        intro hfailed
        have hall := hpart.nodup_iff.mpr ha.once
        have hdisjoint := (List.nodup_append.mp hall).2.2
        exact hdisjoint id (List.mem_append_right _ hfailed) id List.mem_cons_self rfl
      refine ⟨⟨ha.once, .trans ?_ hpart, ha.unfinished, ha.timedOut⟩, rfl⟩
      simp only [List.append_assoc]
      refine (List.Perm.refl _).append ?_
      exact ((perm_insertEntry hnew).append_right _).trans List.perm_middle.symm

/-- What a report of drains tells about the host that was drained: every registered id was
issued once, by descending priority and then by id, and each of them has completed or failed
or is unfinished. -/
structure DrainReport.Tells (r : DrainReport) (h : Host) : Prop where
  once : r.issued.Nodup
  issued : ∀ id, id ∈ r.issued ↔ id ∈ h.registry.ids
  ordered : r.issued.Pairwise fun a b => ∃ i j, h.record? a = some i ∧ h.record? b = some j ∧
    (j.descriptor.priority < i.descriptor.priority ∨
      i.descriptor.priority = j.descriptor.priority ∧ a < b)
  partition : (r.completed ++ r.failed.map (·.1) ++ r.unfinished).Perm r.issued
  timedOut : r.timedOut = true ↔ r.unfinished ≠ []
  clean : r.isClean = true ↔ r.completed.Perm r.issued

theorem DrainReport.mem_abandon_unfinished {id : String} :
    id ∈ r.abandon.unfinished ↔
      id ∈ r.issued ∧ id ∉ r.completed ∧ id ∉ r.failed.map (·.1) := by
  have hcompleted : r.completed.contains id = false ↔ id ∉ r.completed := by simp
  have hfailed : (r.failed.any (·.1 == id)) = false ↔ id ∉ r.failed.map (·.1) := by
    simp only [List.any_eq_false, List.mem_map, beq_iff_eq, not_exists, not_and]
  show id ∈ r.issued.filter _ ↔ _
  simp only [List.mem_filter, Bool.and_eq_true, Bool.not_eq_true', hcompleted, hfailed]

/-- The accounts are closed with what is still waited for as unfinished. -/
theorem DrainReport.Accounts.abandon (ha : r.Accounts rest) :
    r.abandon.unfinished.Perm (rest.map (·.2)) := by
  obtain ⟨-, hleft, hapart⟩ := List.nodup_append.mp (ha.partition.nodup_iff.mpr ha.once)
  refine (List.perm_ext_iff_of_nodup (ha.once.filter _) hleft).mpr fun id => ?_
  show id ∈ r.abandon.unfinished ↔ _
  have hissued := ha.partition.mem_iff (a := id)
  simp only [List.mem_append] at hissued hapart
  rw [mem_abandon_unfinished, ← hissued]
  constructor
  · rintro ⟨(hdone | hfailed) | hrest, hnot, hnot'⟩
    · exact absurd hdone hnot
    · exact absurd hfailed hnot'
    · exact hrest
  · intro hrest
    refine ⟨.inr hrest, fun hdone => ?_, fun hfailed => ?_⟩
    · exact hapart id (.inl hdone) id hrest rfl
    · exact hapart id (.inr hfailed) id hrest rfl

theorem DrainReport.Accounts.collects (ha : r.Accounts rest) (hnodup : (rest.map (·.1)).Nodup)
    (hc : Collects h (rest, r) (rest', r')) :
    r'.Accounts rest' ∧ r'.issued = r.issued ∧ (rest'.map (·.1)).Nodup := by
  generalize hfirst : (rest, r) = first at hc
  generalize hlast : (rest', r') = last at hc
  induction hc generalizing rest' r' with
  | refl =>
    cases hfirst
    cases hlast
    exact ⟨ha, rfl, hnodup⟩
  | @tail mid last _ hstep ih =>
    obtain ⟨mid, rmid⟩ := mid
    obtain ⟨hmid, hissued, hnumbers⟩ := ih rfl
    cases hlast
    obtain ⟨hlast, hissued'⟩ := hmid.collect hnumbers hstep
    refine ⟨hlast, hissued'.trans hissued, ?_⟩
    cases hstep with
    | record => exact hnumbers.sublist (List.filter_sublist.map _)

/-- Whether a report is clean says whether all that was issued has completed. -/
theorem DrainReport.isClean_iff (htimed : r.timedOut = true ↔ r.unfinished ≠ [])
    (hpart : (r.completed ++ r.failed.map (·.1) ++ r.unfinished).Perm r.issued) :
    r.isClean = true ↔ r.completed.Perm r.issued := by
  unfold isClean
  rw [Bool.and_eq_true, List.isEmpty_iff, Bool.not_eq_true', ← Bool.not_eq_true, htimed, not_not]
  constructor
  · rintro ⟨hfailed, hunfinished⟩
    simpa [hfailed, hunfinished] using hpart
  · intro hall
    have hlength := hpart.length_eq
    simp only [List.length_append, List.length_map, hall.length_eq] at hlength
    exact ⟨List.length_eq_zero_iff.mp (by omega), List.length_eq_zero_iff.mp (by omega)⟩

/-! ## The order of the drains -/

theorem drainsBefore_iff {a b : Nat × Instance} :
    drainsBefore a b = true ↔ b.2.descriptor.priority < a.2.descriptor.priority ∨
      a.2.descriptor.priority = b.2.descriptor.priority ∧ a.2.id ≤ b.2.id := by
  unfold drainsBefore
  split
  next heq =>
    rw [Bool.not_eq_true', decide_eq_false_iff_not, String.not_lt, heq]
    simp only [Int.lt_irrefl, false_or, true_and]
  next hne => simp [hne]

theorem drainsBefore_trans (a b c : Nat × Instance) (hab : drainsBefore a b = true)
    (hbc : drainsBefore b c = true) : drainsBefore a c = true := by
  rw [drainsBefore_iff] at hab hbc ⊢
  obtain hab | ⟨hab, hid⟩ := hab
  · exact .inl (by omega)
  obtain hbc | ⟨hbc, hid'⟩ := hbc
  · exact .inl (by omega)
  · exact .inr ⟨hab.trans hbc, String.le_trans hid hid'⟩

theorem drainsBefore_total (a b : Nat × Instance) :
    (drainsBefore a b || drainsBefore b a) = true := by
  rw [Bool.or_eq_true, drainsBefore_iff, drainsBefore_iff]
  rcases Int.lt_trichotomy a.2.descriptor.priority b.2.descriptor.priority with hlt | heq | hlt
  · exact .inr (.inl hlt)
  · obtain hid | hid := String.le_total a.2.id b.2.id
    · exact .inl (.inr ⟨heq, hid⟩)
    · exact .inr (.inr ⟨heq.symm, hid⟩)
  · exact .inl (.inl hlt)

theorem lookup_of_nodup {β : Type} {key : String} {value : β} {table : List (String × β)}
    (hnodup : (table.map (·.1)).Nodup) (hmem : (key, value) ∈ table) :
    table.lookup key = some value := by
  induction table with
  | nil => cases hmem
  | cons entry table ih =>
    obtain ⟨hnot, hrest⟩ := List.nodup_cons.mp hnodup
    obtain rfl | htail := List.mem_cons.mp hmem
    · simp
    · have hne : key ≠ entry.1 := by
        rintro rfl
        exact hnot (List.mem_map.mpr ⟨_, htail, rfl⟩)
      rw [List.lookup_cons, beq_eq_false_iff_ne.mpr hne]
      exact ih hrest htail

/-- Every registered instance reports the id that it is registered under, and no id is
registered twice. -/
structure Host.Names (h : Host) : Prop where
  reports : ∀ id n, h.registry.get? id = some n → ∃ i, h.instance? n = some i ∧ i.id = id
  once : h.registry.ids.Nodup

namespace Host.Names

theorem of_records
    (hall : ∀ record ∈ h.registry.records, (h.instance? record.2).map Instance.id = some record.1)
    (hnodup : h.registry.ids.Nodup) : h.Names where
  reports id n hget := by
    obtain ⟨before, after, hrecords, -⟩ := List.lookup_eq_some_iff.mp hget
    have hmem : (id, n) ∈ h.registry.records := by
      rw [hrecords]
      exact List.mem_append_right before List.mem_cons_self
    exact Option.map_eq_some_iff.mp (hall _ hmem)
  once := hnodup

theorem registered_ids (hn : h.Names) : h.registered.map (·.2.id) = h.registry.ids := by
  have hall : ∀ record ∈ h.registry.records, ∃ i, h.instance? record.2 = some i ∧
      i.id = record.1 := by
    rintro ⟨id, n⟩ hmem
    exact hn.reports id n (lookup_of_nodup hn.once hmem)
  unfold registered Registry.ids
  revert hall
  induction h.registry.records with
  | nil => exact fun _ => rfl
  | cons record records ih =>
    intro hall
    obtain ⟨⟨i, hi, hid⟩, hrest⟩ := List.forall_mem_cons.mp hall
    obtain ⟨id, n⟩ := record
    have hfound : (h.instance? n).map (n, ·) = some (n, i) := by rw [hi, Option.map_some]
    simp only [List.filterMap_cons, hfound, List.map_cons, ih hrest]
    exact congrArg (· :: _) hid

theorem drainOrder_ids (hn : h.Names) : (h.drainOrder.map (·.2.id)).Perm h.registry.ids := by
  rw [← hn.registered_ids]
  exact (List.mergeSort_perm _ _).map _

/-- What is drained is what is registered under the id it reports. -/
theorem of_mem_drainOrder (hn : h.Names) {n : Nat} {i : Instance} (hmem : (n, i) ∈ h.drainOrder) :
    h.registry.get? i.id = some n ∧ h.instance? n = some i := by
  obtain ⟨⟨id, m⟩, hrecord, hsome⟩ :=
    List.mem_filterMap.mp ((List.mergeSort_perm _ _).mem_iff.mp hmem)
  obtain ⟨j, hj, hpair⟩ := Option.map_eq_some_iff.mp hsome
  cases hpair
  have hget : h.registry.get? id = some n := lookup_of_nodup hn.once hrecord
  obtain ⟨i', hi', hid⟩ := hn.reports id n hget
  cases hj.symm.trans hi'
  exact ⟨hid ▸ hget, hj⟩

theorem drainOrder_ordered (hn : h.Names) :
    (h.drainOrder.map (·.2.id)).Pairwise fun a b => ∃ i j, h.record? a = some i ∧
      h.record? b = some j ∧ (j.descriptor.priority < i.descriptor.priority ∨
        i.descriptor.priority = j.descriptor.priority ∧ a < b) := by
  have hsorted : h.drainOrder.Pairwise fun a b => drainsBefore a b = true :=
    List.pairwise_mergeSort drainsBefore_trans drainsBefore_total h.registered
  have hdistinct : h.drainOrder.Pairwise fun a b => a.2.id ≠ b.2.id :=
    List.pairwise_map.mp (hn.drainOrder_ids.nodup_iff.mpr hn.once)
  refine List.pairwise_map.mpr ((hsorted.and hdistinct).imp_of_mem ?_)
  rintro ⟨n, i⟩ ⟨k, j⟩ hi hj ⟨hbefore, hne⟩
  obtain ⟨hget, hin⟩ := hn.of_mem_drainOrder hi
  obtain ⟨hget', hjn⟩ := hn.of_mem_drainOrder hj
  refine ⟨i, j, by rw [record?, hget, Option.bind_some, hin], ?_, ?_⟩
  · rw [record?, hget', Option.bind_some, hjn]
  · obtain hlt | ⟨heq, hle⟩ := drainsBefore_iff.mp hbefore
    · exact .inl hlt
    · exact .inr ⟨heq, Std.lt_of_le_of_ne hle hne⟩

end Host.Names

/-! ## The drain of all -/

/-- The tasks in which a machine drains all instances, with the instances. -/
def HostMachine.drainTasks (m : HostMachine) : List (Nat × Nat × Instance) :=
  numberFrom m.nextNumber m.state.drainOrder

/-- The tasks in which a machine drains all instances, with the ids. -/
def HostMachine.drainIds (m : HostMachine) : List (Nat × String) :=
  m.drainTasks.map fun (number, _, i) => (number, i.id)

theorem HostMachine.drainIds_ids : m.drainIds.map (·.2) = m.state.drainOrder.map (·.2.id) := by
  have hids : m.drainIds.map (·.2) = (m.drainTasks.map (·.2)).map (·.2.id) := by
    simp [drainIds, Function.comp_def]
  rw [hids, drainTasks, numberFrom_snd]

theorem HostMachine.drainIds_numbers : (m.drainIds.map (·.1)).Nodup := by
  have hnumbers : m.drainIds.map (·.1) = m.drainTasks.map (·.1) := by
    simp [drainIds, Function.comp_def]
  rw [hnumbers, drainTasks, numberFrom_fst]
  exact List.nodup_range'

theorem Host.Names.drainIds_nodup (hn : m.state.Names) : (m.drainIds.map (·.2)).Nodup := by
  rw [HostMachine.drainIds_ids]
  exact hn.drainOrder_ids.nodup_iff.mpr hn.once

/-- The machine once the drains of all instances have been set off. -/
def HostMachine.drainingAll (m : HostMachine) (T : Nat) : HostMachine :=
  m.spawnAll false (fun (number, _) => Job.drain number T) m.state.drainOrder

/-- Drains the given instances at once. -/
def drainEach (order : List (Nat × Instance)) (T : Nat) : HostProgram DrainReport := do
  let start ← Program.now
  let tasks ← spawnEach false (fun (number, _) => Job.drain number T) order
  let tasks := tasks.map fun (task, _, i) => (task, i.id)
  collectDrains (start + T) T tasks.length tasks (.start (tasks.map (·.2)))

/-- The order is settled at once. -/
theorem drainAll_call (T : Nat) (m : HostMachine) :
    m.call hostJobs (drainAll T) = m.call hostJobs (drainEach m.state.drainOrder T) :=
  rfl

theorem drainAll_call_of_ordered
    (hordered : m.state.registered.Pairwise fun a b => drainsBefore a b = true) :
    m.call hostJobs (drainAll T) = m.call hostJobs (drainEach m.state.registered T) := by
  have horder : m.state.drainOrder = m.state.registered := List.mergeSort_of_pairwise hordered
  rw [drainAll_call, horder]

/-- The first turn sets the drains off, and goes on to record what has ended. -/
theorem drainAll_runTurn (T : Nat) (m : HostMachine) :
    (drainAll T).runTurn hostJobs m =
      (collectDrains (m.time + T) T m.drainIds.length m.drainIds
        (.start (m.drainIds.map (·.2)))).runTurn hostJobs (m.drainingAll T) := by
  simp only [drainAll, bind_eq, ask, now, Program.bind, runTurn, runTurn_bind, spawnEach_runTurn]
  rfl

/-- Where a caller that drains all instances stands, with what it waits for and the report so
far. -/
inductive DrainsCalled (h : Host) (D T : Nat) : Stop Host Job DrainReport → Prop where
  | waits {rest : List (Nat × String)} {r : DrainReport} {ready : Host → Bool}
      {next : HostProgram DrainReport} : r.Accounts rest →
      r.issued = h.drainOrder.map (·.2.id) → (rest.map (·.1)).Nodup →
      collectDrains D T rest.length rest r = wait ready (some D) next →
      DrainsCalled h D T (.waits ready (some D) next)
  | done {r : DrainReport} : r.Tells h → DrainsCalled h D T (.done r)

theorem Collected.drainsCalled (hn : h.Names) {stop : Stop Host Job DrainReport}
    (ha : r.Accounts rest) (hissued : r.issued = h.drainOrder.map (·.2.id))
    (hnodup : (rest.map (·.1)).Nodup) (hc : Collected m D T rest r stop) :
    DrainsCalled h D T stop := by
  cases hc with
  | @all r' hcollects =>
    obtain ⟨ha', hissued', -⟩ := ha.collects hnodup hcollects
    have hpart : (r'.completed ++ r'.failed.map (·.1) ++ r'.unfinished).Perm r'.issued := by
      simpa [ha'.unfinished] using ha'.partition
    have htimed : r'.timedOut = true ↔ r'.unfinished ≠ [] := by
      simp [ha'.unfinished, ha'.timedOut]
    refine .done ⟨ha'.once, fun id => ?_, ?_, hpart, htimed, r'.isClean_iff htimed hpart⟩
    · rw [hissued', hissued, hn.drainOrder_ids.mem_iff]
    · rw [hissued', hissued]
      exact hn.drainOrder_ordered
  | @abandoned rest' r' hcollects hne hnone htime =>
    obtain ⟨ha', hissued', -⟩ := ha.collects hnodup hcollects
    have hleft := ha'.abandon
    have hpart : (r'.abandon.completed ++ r'.abandon.failed.map (·.1) ++
        r'.abandon.unfinished).Perm r'.abandon.issued :=
      ((List.Perm.refl _).append hleft).trans ha'.partition
    have htimed : r'.abandon.timedOut = true ↔ r'.abandon.unfinished ≠ [] := by
      refine iff_of_true rfl fun hnil => hne ?_
      have hlength := hleft.length_eq
      rw [hnil] at hlength
      simpa using hlength.symm
    refine .done ⟨ha'.once, fun id => ?_, ?_, hpart, htimed,
      DrainReport.isClean_iff htimed hpart⟩
    · show id ∈ r'.issued ↔ _
      rw [hissued', hissued, hn.drainOrder_ids.mem_iff]
    · show r'.issued.Pairwise _
      rw [hissued', hissued]
      exact hn.drainOrder_ordered
  | waits hcollects _ hwait =>
    obtain ⟨ha', hissued', hnodup'⟩ := ha.collects hnodup hcollects
    exact .waits ha' (hissued'.trans hissued) hnodup' hwait

/-- Once its wait is over, the caller goes on to record what has ended. -/
theorem collectDrains_wakes {ready : Host → Bool} {next : HostProgram DrainReport}
    (hwait : collectDrains D T rest.length rest r = wait ready (some D) next)
    (hover : m.isOver ready (some D) = true) :
    next.runTurn hostJobs m = (collectDrains D T rest.length rest r).runTurn hostJobs m := by
  rw [hwait]
  exact (runTurn_wait_of_isOver hover).symm

theorem drainAll_drainsCalled
    {meanwhile : (Host → Bool) → Option Nat → HostMachine → HostMachine → Prop}
    {c : Caller Host Job (Except HostError Unit) DrainReport} (hn : m.state.Names)
    (hreach : (m.call hostJobs (drainAll T)).Reaches hostJobs meanwhile c) :
    DrainsCalled m.state (m.time + T) T c.stop := by
  induction hreach with
  | refl =>
    show DrainsCalled _ _ _ ((drainAll T).runTurn hostJobs m).1
    rw [drainAll_runTurn]
    obtain ⟨hcollected, -⟩ := collectDrains_runTurn (m.time + T) T m.drainIds
      (.start (m.drainIds.map (·.2))) HostMachine.drainIds_numbers (m.drainingAll T)
    exact hcollected.drainsCalled hn (.start hn.drainIds_nodup) HostMachine.drainIds_ids
      HostMachine.drainIds_numbers
  | tail _ hstep ih =>
    cases hstep with
    | between => exact ih
    | @wakes l ready deadline next m₁ hover =>
      cases ih with
      | waits ha hissued hnodup hwait =>
        show DrainsCalled _ _ _ (next.runTurn hostJobs m₁).1
        rw [collectDrains_wakes hwait hover]
        obtain ⟨hcollected, -⟩ := collectDrains_runTurn (m.time + T) T _ _ hnodup m₁
        exact hcollected.drainsCalled hn ha hissued hnodup

/-- Whatever becomes of the drains, and in whatever order they end, a caller that drains all
instances waits until its deadline at the latest and has a report then, and the report tells
of every registered id what has become of it. -/
theorem drainAll_tells
    {meanwhile : (Host → Bool) → Option Nat → HostMachine → HostMachine → Prop}
    {c : Caller Host Job (Except HostError Unit) DrainReport} (hn : m.state.Names)
    (hreach : (m.call hostJobs (drainAll T)).Reaches hostJobs meanwhile c) :
    (∃ ready next, c.stop = .waits ready (some (m.time + T)) next ∧
      (m.time + T ≤ c.machine.time → ∃ r m', next.runTurn hostJobs c.machine = (.done r, m'))) ∨
      ∃ r, c.stop = .done r ∧ r.Tells m.state := by
  have hcalled := drainAll_drainsCalled hn hreach
  generalize c.stop = stop at hcalled
  cases hcalled with
  | done htells => exact .inr ⟨_, rfl, htells⟩
  | @waits rest r ready next ha hissued hnodup hwait =>
    refine .inl ⟨ready, next, rfl, fun htime => ?_⟩
    have hover : c.machine.isOver ready (some (m.time + T)) = true :=
      Bool.or_eq_true_iff.mpr (.inr (decide_eq_true htime))
    rw [collectDrains_wakes hwait hover]
    obtain ⟨hcollected, -⟩ := collectDrains_runTurn (m.time + T) T rest r hnodup c.machine
    generalize (collectDrains (m.time + T) T rest.length rest r).runTurn hostJobs c.machine =
      turned at hcollected
    obtain ⟨stop, m'⟩ := turned
    -- At the deadline it cannot wait any longer.
    cases hcollected with
    | all => exact ⟨_, _, rfl⟩
    | abandoned => exact ⟨_, _, rfl⟩
    | waits _ hbefore => exact absurd htime (Nat.not_le.mpr hbefore)

/-- Four instances that are drained differently: one has a request that is never answered, one
breaks down, one does not stop, and one does. -/
private def mixedHost : Host :=
  let made (id : String) (priority : Int) (conduct : Conduct) : Instance :=
    .ofBlueprint ⟨{ Descriptor.at "busy" id with priority }, true, conduct, ⟨1, 1, 0⟩⟩ none
  let answering (ending : Ending) : Conduct :=
    { Conduct.idle with respond := fun _ _ => ⟨0, ending⟩ }
  { Host.busy with
    instances := [
      made "a" 9 { Conduct.idle with hasStatistics := true },
      made "b" 7 (answering (.brokeDown "oh")),
      made "c" 7 (answering (.failed ⟨"no", []⟩)),
      made "d" 0 Conduct.idle]
    registry := ⟨[("a", 0), ("b", 1), ("c", 2), ("d", 3)], []⟩ }

private theorem mixedHost_names : mixedHost.Names :=
  .of_records (by decide +kernel) (by decide +kernel)

/-- Each of the four is told of as it went. -/
theorem mixed_drainAll_tells :
    ∃ c r, ((Machine.start mixedHost).call hostJobs (drainAll 50)).Reaches hostJobs
        (Machine.Onward hostJobs Undisturbed) c ∧
      c.stop = .done r ∧ r.Tells mixedHost ∧ r.issued = ["a", "b", "c", "d"] ∧
      r.completed = ["d"] ∧ r.failed.map (·.1) = ["b", "c"] ∧ r.unfinished = ["a"] := by
  have hordered : mixedHost.registered.Pairwise fun a b => drainsBefore a b = true := by
    decide +kernel
  have hrun : ((Machine.start mixedHost).run hostJobs
      (drainEach mixedHost.registered 50)).1.value? = some
        ⟨["a", "b", "c", "d"], ["d"],
          [("b", "[b] Lifecycle task failed: task # panicked with message \"oh\""),
            ("c", "[c] Stop failed: forced stop failed: no")], ["a"], true⟩ := by
    decide +kernel
  obtain ⟨c, hreach, hstop⟩ := run_reaches rfl hrun
  have hcall : (Machine.start mixedHost).call hostJobs (drainAll 50) =
      (Machine.start mixedHost).call hostJobs (drainEach mixedHost.registered 50) :=
    drainAll_call_of_ordered hordered
  rw [← hcall] at hreach
  obtain ⟨ready, next, hwaits, -⟩ | ⟨r, hdone, htells⟩ := drainAll_tells mixedHost_names hreach
  · cases hstop.symm.trans hwaits
  · cases hstop.symm.trans hdone
    exact ⟨c, _, hreach, hstop, htells, rfl, rfl, rfl, rfl⟩

end ExtensionHost
