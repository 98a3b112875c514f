import ExtensionHost.Proofs.Starts

/-!
# The trail of a host

What has been done on a host since nothing was done on it, turn by turn. Any jobs may have
been set off and any requests made, their turns may have come in any order, and what the
host was set up with may have changed in between.

Every instance that was registered was built and registered in one turn, and started in it
right after its registration. So what is registered was made for its id.
-/

namespace ExtensionHost

open Program

variable {α : Type} {t n : Nat} {h h' : Host} {d : Descriptor} {id : String} {x : Step Host}

/-! ## Jobs and requests -/

theorem Host.Aside.moves (ha : h.Aside h') : h.Moves t h' :=
  ⟨ha.later, .inr ha⟩

/-- A step aside starts nothing. -/
theorem aside_startsWell {β : Type} {step : Nat → Host → β × Host} {next : β → HostProgram α}
    (hstep : ∀ (t : Nat) (h : Host), h.Aside (step t h).2) (hnext : ∀ b, (next b).StartsWell) :
    (act step next).StartsWell := by
  refine turns_act startsWell_composes (fun t h => ?_) hnext
  have haside := hstep t h
  refine startsWell_singleton haside.moves haside.turned ?_
  rw [Step.adds_eq_nil haside.past_eq]
  exact List.forall_mem_nil _

theorem pollOnce_startsWell : pollOnce.StartsWell :=
  aside_startsWell (fun _ _ => ⟨rfl, rfl, rfl⟩) fun events => handleEach_startsWell events .empty

theorem Host.watchTurn_aside (h : Host) (now due : Nat) : h.Aside (h.watchTurn now due).2 := by
  obtain ⟨told, ties, heq⟩ := h.watchTurn_snd now due
  rw [heq]
  exact ⟨rfl, rfl, rfl⟩

theorem watchTick_startsWell (due : Nat) : (watchTick due).StartsWell := by
  have haside (now : Nat) (h : Host) := h.watchTurn_aside now due
  refine turns_wait startsWell_composes (aside_startsWell haside fun turn => ?_)
  cases turn with
  | told => exact done_startsWell _
  | tick next =>
    refine pollOnce_startsWell.bind fun _ => (quiet_startsWell (works_ask _)).bind fun running => ?_
    cases running with
    | true => exact turns_goOn startsWell_composes _
    | false => exact done_startsWell _

theorem watchJob_startsWell (nextTick : Option Nat) : (watchJob nextTick).StartsWell := by
  cases nextTick with
  | some due => exact watchTick_startsWell due
  | none =>
    refine (quiet_startsWell works_now).bind fun start => ?_
    refine (quiet_startsWell (works_ask _)).bind fun interval => ?_
    refine (quiet_startsWell (works_ask _)).bind fun running => ?_
    cases running with
    | true => exact watchTick_startsWell _
    | false => exact done_startsWell _

theorem Job.program_startsWell (job : Job) : job.program.StartsWell := by
  cases job with
  | handle event => exact handle_startsWell event
  | drain n timeoutMs => exact (drain_startsWell n timeoutMs).bind fun _ => done_startsWell _
  | stop id =>
    have hw : (stopRegistered id).Works (Deed.IsCall (fun _ => True) (· = .stop)) :=
      callRegistered_works fun _ => callInstance_isCall trivial rfl
    exact (hw.startsWell fun _ hx => hx.sparesStarts nofun).bind fun _ => done_startsWell _
  | watch nextTick => exact watchJob_startsWell nextTick

/-- What a caller asks of a host: that events be handled, or that the host be started. -/
inductive Request where
  | handle (events : List Event)
  | start

/-- The program of a request. -/
def Request.program : Request → HostProgram (Except HostError Unit)
  | .handle events => do
    let _ ← handleBatch events
    return .ok ()
  | .start => do
    let _ ← startHost
    return .ok ()

theorem startWatch_startsWell : startWatch.StartsWell := by
  refine (quiet_startsWell (works_ask _)).bind fun interval => ?_
  refine (quiet_startsWell (works_ask _)).bind fun running => ?_
  split
  · exact quiet_startsWell (noteAll_works _)
  split
  · exact done_startsWell ()
  · refine aside_startsWell (fun _ _ => ⟨rfl, rfl, rfl⟩) fun _ => turns_spawn fun number => ?_
    exact aside_startsWell (fun _ _ => ⟨rfl, rfl, rfl⟩) fun _ => done_startsWell ()

theorem startHost_startsWell : startHost.StartsWell := by
  refine aside_startsWell (fun _ _ => ⟨rfl, rfl, rfl⟩) fun events => ?_
  refine (handleEach_startsWell events .empty).bind fun result => ?_
  refine (quiet_startsWell (works_ask _)).bind fun wanted => ?_
  cases wanted with
  | true => exact startWatch_startsWell.bind fun _ => done_startsWell result
  | false => exact done_startsWell result

theorem Request.program_startsWell (r : Request) : r.program.StartsWell := by
  cases r with
  | handle events => exact (handleEach_startsWell events .empty).bind fun _ => done_startsWell _
  | start => exact startHost_startsWell.bind fun _ => done_startsWell _

/-! ## Trails -/

/-- The machine after a caller has asked something of it. -/
def HostMachine.ask (m : HostMachine) (r : Request) : HostMachine :=
  { m with
    tasks := m.tasks ++ [⟨m.nextNumber, true, fun _ => true, none, r.program⟩]
    nextNumber := m.nextNumber + 1 }

/-- A change between turns: whatever is set up and whatever states the instances take, they
stay what they were made as, and the registry and the history stay the same. -/
structure Host.Adjusted (h h' : Host) : Prop extends Host.Altered h h' where
  history : h'.history = h.history

/-- The machines that are reached from a host on which nothing has been done, with the steps
of each turn so far: jobs are set off and requests made at any time, those whose waits are
over have their turns in any order, and time passes and the host is adjusted in between. -/
inductive HostMachine.Trail : HostMachine → List (List (Step Host)) → Prop where
  | fresh {h : Host} : h.IsFresh → Trail (Machine.start h) []
  | setOff {turns : List (List (Step Host))} {m : HostMachine} (own : Bool) (job : Job) :
    Trail m turns → Trail (m.spawn hostJobs own job) turns
  | asked {turns : List (List (Step Host))} {m : HostMachine} (r : Request) :
    Trail m turns → Trail (m.ask r) turns
  | turn {turns : List (List (Step Host))} {m : HostMachine}
    {a : Task Host Job (Except HostError Unit)} : Trail m turns → a ∈ m.tasks →
    m.isOver a.ready a.deadline = true →
    Trail (m.runTask hostJobs a) (turns ++ [a.next.turnSteps hostJobs m])
  | passed {turns : List (List (Step Host))} {m : HostMachine} {time : Nat} :
    Trail m turns → m.time ≤ time → Trail { m with time := time } turns
  | adjusted {turns : List (List (Step Host))} {m : HostMachine} {h : Host} :
    Trail m turns → m.state.Adjusted h → Trail { m with state := h } turns

/-! ## What a trail tells -/

/-- What a move adds to the past. -/
theorem Host.Moves.past (hm : h.Moves t h') : ∃ new, h'.past = h.past ++ new := by
  obtain ⟨-, ⟨x, rfl⟩ | ha⟩ := hm
  · exact (h.perform_grew t x).past
  · exact ⟨[], by rw [ha.past_eq, List.append_nil]⟩

theorem Step.past_eq (hx : Host.Moves x.time x.before x.after) :
    x.after.past = x.before.past ++ x.adds := by
  obtain ⟨new, hnew⟩ := hx.past
  rw [hnew, Step.adds_eq hnew]

theorem Host.finish_aside (h : Host) (number : Nat)
    (outcome : Except String (Except HostError Unit)) :
    h.Aside (hostJobs.finish number outcome h) :=
  ⟨rfl, rfl, rfl⟩

theorem Host.IsFresh.tidy (hf : h.IsFresh) : h.Tidy := by
  have ho : h.InOrder fun _ _ => True := hf.inOrder
  refine ⟨ho.sound, ho.paired, fun id => ?_⟩
  rw [hf.registry, past, hf.history]
  rfl

theorem Host.IsFresh.past_eq (hf : h.IsFresh) : h.past = [] := by
  rw [past, hf.history]
  rfl

theorem Host.IsFresh.regular (hf : h.IsFresh) : h.Regular := by
  refine ⟨hf.past_eq ▸ .nil, ?_⟩
  rw [hf.past_eq]
  exact List.forall_mem_nil _

theorem Host.Adjusted.past_eq (ha : h.Adjusted h') : h'.past = h.past := by
  rw [past, ha.history, past]

theorem Host.Adjusted.tidy (ha : h.Adjusted h') (ht : h.Tidy) : h'.Tidy := by
  refine ⟨ha.later.sound ht.sound, ha.paired ht.sound.linked ht.paired, fun id => ?_⟩
  rw [ha.registry, ha.past_eq, ht.recounts id]

theorem Host.Adjusted.turned (ha : h.Adjusted h') : h.Turned h' :=
  .of_same ha.past_eq (nextInstance_le ha.instance?)

/-- What is known of a host and of what has been done on it. -/
structure Host.Known (turns : List (List (Step Host))) (h : Host) : Prop where
  tidy : h.Tidy
  regular : h.Regular
  wells : ∀ xs ∈ turns, StartsWell xs
  later : ∀ xs ∈ turns, ∀ x ∈ xs, x.after.Later h
  added : ∀ w ∈ h.past, ∃ xs ∈ turns, ∃ x ∈ xs, w ∈ x.adds

namespace Host.Known

variable {turns : List (List (Step Host))}

theorem fresh (hf : h.IsFresh) : h.Known [] := by
  refine ⟨hf.tidy, hf.regular, nofun, nofun, ?_⟩
  rw [hf.past_eq]
  exact List.forall_mem_nil _

/-- A change that adds nothing to the past. -/
theorem changed (hk : h.Known turns) (htidy : h'.Tidy) (hlater : h.Later h') (hturned : h.Turned h')
    (hpast : h'.past = h.past) : h'.Known turns :=
  ⟨htidy, hturned.regular hk.regular, hk.wells,
    fun xs hxs x hx => (hk.later xs hxs x hx).trans hlater, hpast ▸ hk.added⟩

/-- One more turn. -/
theorem turn {xs : List (Step Host)} (hk : h.Known turns) (hw : StartsWell xs)
    (hl : Leads xs h h') : h'.Known (turns ++ [xs]) := by
  have hlater {l : List (Step Host)} {h₀ h₁ : Host} (hl : Leads l h₀ h₁) (hsub : ∀ x ∈ l, x ∈ xs) :
      h₀.Later h₁ :=
    hl.chain Host.Later.refl Host.Later.trans fun x hx => (hw.moves x (hsub x hx)).1
  refine ⟨?_, (hw.turned hl).regular hk.regular, ?_, ?_, fun w hmem => ?_⟩
  · have hkept : h.Tidy → h'.Tidy :=
      hl.chain (Q := fun a b => a.Tidy → b.Tidy) (fun _ ht => ht) (fun hab hbc ht => hbc (hab ht))
        fun x hx => (hw.moves x hx).tidy
    exact hkept hk.tidy
  · exact List.forall_mem_append.mpr ⟨hk.wells, List.forall_mem_singleton.mpr hw⟩
  · refine List.forall_mem_append.mpr ⟨fun ys hys y hy => ?_, List.forall_mem_singleton.mpr ?_⟩
    · exact (hk.later ys hys y hy).trans (hlater hl fun _ hx => hx)
    · intro x hx
      obtain ⟨l, l', rfl, -, hl'⟩ := hl.split hx
      exact hlater hl' fun y hy => List.mem_append_right _ (List.mem_cons_of_mem x hy)
  · by_cases hold : w ∈ h.past
    · obtain ⟨ys, hys, y, hy⟩ := hk.added w hold
      exact ⟨ys, List.mem_append_left _ hys, y, hy⟩
    · obtain ⟨x, hx, hbefore, hafter⟩ := hl.crosses (P := (w ∈ ·.past)) hold hmem
      rw [Step.past_eq (hw.moves x hx)] at hafter
      exact ⟨xs, List.mem_append_right _ (List.mem_singleton_self xs), x, hx,
        (List.mem_append.mp hafter).resolve_left hbefore⟩

end Host.Known

namespace HostMachine.Trail

variable {m : HostMachine} {turns : List (List (Step Host))}

/-- What is known of the host of a trail, and of the turns that its tasks will have. -/
theorem known (htrail : m.Trail turns) : m.state.Known turns ∧ m.Turns StartsWell := by
  induction htrail with
  | fresh hf => exact ⟨.fresh hf, .start _⟩
  | setOff own job _ ih => exact ⟨ih.1, ih.2.snoc job.program_startsWell.after _⟩
  | asked r _ ih => exact ⟨ih.1, ih.2.snoc r.program_startsWell.after _⟩
  | @turn _ _ a _ ha hover ih =>
    have hjobs : ∀ job, (hostJobs.program job).Turns StartsWell := Job.program_startsWell
    obtain ⟨hturns, hwell, s, hleads, hstate⟩ := ih.2.runTask startsWell_composes hjobs ha hover
    refine ⟨?_, hturns⟩
    have hknown := ih.1.turn hwell hleads
    rcases hstate with hstate | ⟨outcome, hstate⟩
    · exact hstate ▸ hknown
    · have haside := s.finish_aside a.number outcome
      rw [hstate]
      exact hknown.changed (haside.tidy hknown.tidy) haside.later haside.turned haside.past_eq
  | passed _ hle ih => exact ⟨ih.1, ih.2.later _ hle⟩
  | adjusted _ ha ih =>
    refine ⟨?_, ih.2.later _ (Nat.le_refl _)⟩
    exact ih.1.changed (ha.tidy ih.1.tidy) ha.later ha.turned ha.past_eq

/-- A turn starts an instance only right after it has built it, has registered it under the id
that it reports and has found it there. All that has happened was done in the turns, and once
they are over every instance that was ever registered has been started, and only once. -/
theorem started_once (htrail : m.Trail turns) :
    (∀ xs ∈ turns, ∀ l y l' n, xs = l ++ y :: l' → .called n .start ∈ y.adds →
      ∃ earlier b x z d, l = earlier ++ [b, x, z] ∧ Step.Introduces b x z y d n) ∧
    (∀ w ∈ m.state.past, ∃ xs ∈ turns, ∃ x ∈ xs, w ∈ x.adds) ∧
    ∀ id n, .registered id n ∈ m.state.past → m.state.past.count (.called n .start) = 1 := by
  have hknown := htrail.known.1
  refine ⟨fun xs hxs l y l' n heq hstart => ?_, hknown.added, fun id n hmem => ?_⟩
  · exact ((hknown.wells xs hxs).introduces l y l' heq).starts hstart
  · exact hknown.regular.starts.count_start hmem

/-- What is registered under an id reports it, the id is not blank, and a turn has built it for
that id and registered it then. The context that it shows is the one that is kept under the id,
and is of that id and of the version that it was built from. -/
theorem registered_built (htrail : m.Trail turns) (hn : m.state.registry.get? id = some n) :
    isBlankText id = false ∧ ∃ i, m.state.instance? n = some i ∧ i.id = id ∧
      ∃ xs ∈ turns, ∃ b ∈ xs, ∃ x ∈ xs, ∃ d, Step.Makes b x d n ∧ .registered id n ∈ x.adds ∧
        d.id = id ∧ ∀ c, i.context = some c → m.state.registry.context? id = some c ∧
          c.extensionId = id ∧ c.sourceVersion = some d.version := by
  have hknown := htrail.known.1
  obtain ⟨i, hi, hid⟩ := hknown.tidy.sound.reports hn
  refine ⟨hknown.tidy.sound.not_blank hn, i, hi, hid, ?_⟩
  have hmem := registered_mem (hknown.tidy.recounts id ▸ hn)
  obtain ⟨xs, hxs, x, hx, hadds⟩ := hknown.added _ hmem
  obtain ⟨l, l', rfl⟩ := List.append_of_mem hx
  obtain ⟨earlier, b, d, rfl, hd, hmakes⟩ :=
    ((hknown.wells _ hxs).introduces l x l' rfl).registers hadds
  have hb : b ∈ earlier ++ [b] ++ x :: l' := by simp
  refine ⟨_, hxs, b, hb, x, hx, d, hmakes, hadds, hd, fun c hc => ?_⟩
  -- The instance still has the context that it was made with in the step that built it.
  have hafter : b.after = (b.before.build b.time d).2 := (congrArg (·.2) hmakes.built).symm
  obtain ⟨j, hj, -⟩ := (Host.build_justBuilt hmakes.built).built
  obtain ⟨i', hi', hmake⟩ := (hknown.later _ hxs b hb).instances hj
  cases hi'.symm.trans hi
  have hcontext : j.context = some c := (congrArg (·.2.1) hmake).symm.trans hc
  have hnone : b.before.instance? n = none :=
    List.getElem?_eq_none (Nat.le_of_eq hmakes.new.symm)
  obtain ⟨hextension, hversion⟩ := Host.build_context hnone (hafter ▸ hj) hcontext
  exact ⟨(hknown.tidy.paired.context? hn hi).trans hc, hextension.trans hd, hversion⟩

/-! ## Small hosts -/

/-- A host that was asked to enable an extension twice, and has done so. -/
private def reenabled : HostMachine × List (List (Step Host)) :=
  let enabled (version : String) : Event :=
    .of .enable { Descriptor.at "e" "a" with version := version }
  let fresh : HostMachine := Machine.start (.serving .default (.uniform "e" .idle .zero) ["a"])
  let asked := fresh.ask (.handle [enabled "1.0.0", enabled "2.0.0"])
  match asked.tasks with
  | a :: _ => (asked.runTask hostJobs a, [a.next.turnSteps hostJobs asked])
  | [] => (asked, [])

private theorem reenabled_trail : reenabled.1.Trail reenabled.2 :=
  .turn (.asked _ (.fresh ⟨rfl, rfl, rfl⟩)) List.mem_cons_self rfl

theorem started_once_reenabled :
    ∃ m turns, HostMachine.Trail m turns ∧ .registered "a" 0 ∈ m.state.past ∧
      .registered "a" 1 ∈ m.state.past ∧ m.state.past.count (.called 0 .start) = 1 ∧
      m.state.past.count (.called 1 .start) = 1 := by
  have hfirst : .registered "a" 0 ∈ reenabled.1.state.past := by decide +kernel
  have hsecond : .registered "a" 1 ∈ reenabled.1.state.past := by decide +kernel
  have honce := (started_once reenabled_trail).2.2
  exact ⟨_, _, reenabled_trail, hfirst, hsecond, honce _ _ hfirst, honce _ _ hsecond⟩

theorem registered_built_reenabled :
    ∃ m turns, HostMachine.Trail m turns ∧ m.state.registry.get? "a" = some 1 ∧
      ∃ b x d c, Step.Makes b x d 1 ∧ m.state.registry.context? "a" = some c ∧
        c.extensionId = "a" ∧ c.sourceVersion = some d.version := by
  have hn : reenabled.1.state.registry.get? "a" = some 1 := by decide +kernel
  have hshown : ((reenabled.1.state.instance? 1).bind (·.context)).isSome = true := by
    decide +kernel
  obtain ⟨-, i, hi, -, xs, -, b, -, x, -, d, hmakes, -, -, hcontext⟩ :=
    registered_built reenabled_trail hn
  rw [hi, Option.bind_some] at hshown
  obtain ⟨c, hc⟩ := Option.isSome_iff_exists.mp hshown
  exact ⟨_, _, reenabled_trail, hn, b, x, d, c, hmakes, hcontext c hc⟩

end HostMachine.Trail

end ExtensionHost
