import ExtensionHost.Proofs.StopTarget
import ExtensionHost.Proofs.TakeOut
import ExtensionHost.Proofs.Tasks

/-!
# What leaves the registry

Where events are handled one after another, what an update or a removal takes out has
been drained before by the same event, and told to stop. Only an enabling may let go of
something that has never been told to stop: it registers over what is there.
-/

namespace ExtensionHost

open Program

variable {α β : Type} {t u : Nat} {h h' : Host} {steps xs pre post : List (Step Host)}
variable {x : Step Host} {n m k : Nat} {id : String} {e : Event}

/-! ## Events one after another -/

/-- What happens to a host between events: whatever is set up, written or noticed, the
registry and the history stay, and so do the instances. -/
structure Host.Idled (h h' : Host) : Prop where
  registry : h'.registry = h.registry
  past : h'.past = h.past
  instances : ∀ {n i}, h.instance? n = some i → ∃ i', h'.instance? n = some i' ∧ i'.make = i.make

/-- A host on which events have been handled one after another, each to its end, since
nothing was registered. -/
inductive Host.Sequential : Host → Prop where
  | empty {h : Host} : h.registry = .empty → Sequential h
  | handled {h h' : Host} {e : Event} {t u : Nat} {r} :
    Sequential h → (handle e).Ends t h r u h' → Sequential h'
  | idled {h h' : Host} : Sequential h → h.Idled h' → Sequential h'

theorem Host.Idled.of_eq (hi : h'.instances = h.instances) (hr : h'.registry = h.registry)
    (hh : h'.history = h.history) : h.Idled h' :=
  ⟨hr, by rw [Host.past, hh, Host.past], fun {n i} hn => ⟨i, by rwa [instance?, hi], rfl⟩⟩

theorem Host.Idled.refl (h : Host) : h.Idled h :=
  .of_eq rfl rfl rfl

theorem Host.Idled.trans {h'' : Host} (hi : h.Idled h') (hi' : h'.Idled h'') : h.Idled h'' where
  registry := hi'.registry.trans hi.registry
  past := hi'.past.trans hi.past
  instances hn := by
    obtain ⟨i', hn', hmake⟩ := hi.instances hn
    obtain ⟨i'', hn'', hmake'⟩ := hi'.instances hn'
    exact ⟨i'', hn'', hmake'.trans hmake⟩

theorem Host.Idled.later (hi : h.Idled h') : h.Later h' :=
  .of_registered hi.instances fun hn => .inl (hi.registry ▸ hn)

theorem Program.KeepsHost.later {p q : HostProgram α} (hp : p.KeepsHost)
    (hrun : p.Run Undisturbed t h steps q u h') : h.Later h' :=
  hrun.chain Host.Later.refl Host.Later.trans fun x hx => hp.own hrun x hx (hrun.own x hx)

theorem Host.Sequential.sound (hs : h.Sequential) : h.Sound := by
  induction hs with
  | empty hempty => exact sound_of_empty hempty
  | handled _ hends ih =>
    obtain ⟨steps, hrun⟩ := hends
    exact ((handle_keepsHost _).later hrun).sound ih
  | idled _ hidled ih => exact hidled.later.sound ih

/-! ## Programs that handle events in turn -/

/-- A program whose steps only pass time between events or are those of events, handled
one after another. -/
structure Program.HandlesInTurn (p : HostProgram α) : Prop where
  step : ∀ {t h pre x}, h.Sequential → p.Reaches Undisturbed t h pre x →
    x.before.Idled x.after ∨ ∃ e t₁ h₁ pre₁, h₁.Sequential ∧
      (handle e).Reaches Undisturbed t₁ h₁ pre₁ x
  last : ∀ {t h r u h'}, h.Sequential → p.Ends t h r u h' → h'.Sequential

theorem handlesInTurn_of_idled {p : HostProgram α} (hp : p.Does fun _ => Host.Idled) :
    p.HandlesInTurn := by
  refine ⟨fun {t h pre x} _ hr => .inl ?_, fun {t h r u h'} hs hends => .idled hs ?_⟩
  · obtain ⟨q, u, h', hrun⟩ := hr
    exact hp.own hrun x (by simp) (hrun.own x (by simp))
  · obtain ⟨steps, hrun⟩ := hends
    exact hrun.chain Host.Idled.refl Host.Idled.trans fun x hx => hp.own hrun x hx (hrun.own x hx)

theorem handle_handlesInTurn (e : Event) : (handle e).HandlesInTurn :=
  ⟨fun hs hr => .inr ⟨e, _, _, _, hs, hr⟩, fun hs hends => .handled hs hends⟩

theorem handlesInTurn_bind {p : HostProgram α} {k : α → HostProgram β}
    (hp : p.HandlesInTurn) (hk : ∀ a, (k a).HandlesInTurn) : (p.bind k).HandlesInTurn := by
  refine ⟨fun {t h pre x} hs hr => ?_, fun {t h r u h'} hs hends => ?_⟩
  · obtain hr | ⟨a, xs, pre', t₁, h₁, -, hrun, hr⟩ := hr.of_bind
    · exact hp.step hs hr
    · have hends : p.Ends t h (.ok a) t₁ h₁ := ⟨xs, hrun⟩
      exact (hk a).step (hp.last hs hends) hr
  · obtain ⟨a, t₁, h₁, hfirst, hrest⟩ | ⟨message, -, hends⟩ := ends_bind.mp hends
    · exact (hk a).last (hp.last hs hfirst) hrest
    · exact hp.last hs hends

theorem noteAll_idled (notices : List Notice) : (noteAll notices).Does fun _ => Host.Idled :=
  does_change fun _ _ => .of_eq rfl rfl rfl

theorem noteFailure_handlesInTurn {ε : Type} (notice : ε → Notice) (r : Except ε Unit) :
    (noteFailure notice r).HandlesInTurn := by
  cases r with
  | ok _ => exact handlesInTurn_of_idled (does_done ())
  | error e => exact handlesInTurn_of_idled (noteAll_idled _)

/-- A batch handles its events in turn. -/
theorem handleEach_handlesInTurn (events : List Event) (r : BatchResult) :
    (handleEach events r).HandlesInTurn := by
  induction events generalizing r with
  | nil => exact handlesInTurn_of_idled (does_done r)
  | cons e rest ih =>
    refine handlesInTurn_bind (handle_handlesInTurn e) fun result => ?_
    exact handlesInTurn_bind (noteFailure_handlesInTurn _ result) fun _ => ih _

theorem startWatch_idled : startWatch.Does fun _ => Host.Idled := by
  have hask {γ : Type} (f : Host → γ) : (ask f : HostProgram γ).Does fun _ => Host.Idled :=
    does_ask fun _ h => .refl h
  refine does_bind (hask _) fun interval => does_bind (hask _) fun running => ?_
  split
  · exact noteAll_idled _
  split
  · exact does_done ()
  · refine does_bind (does_change fun _ _ => .of_eq rfl rfl rfl) fun _ => ?_
    exact does_spawn fun number => does_change fun _ _ => .of_eq rfl rfl rfl

/-- The start of a host handles the events of a scan in turn. -/
theorem startHost_handlesInTurn : startHost.HandlesInTurn := by
  have hscan : (Program.step fun h : Host =>
      ((h.settings.layout.scan h.files).1, h.notice (h.settings.layout.scan h.files).2) :
        HostProgram (List Event)).Does fun _ => Host.Idled :=
    does_act (fun _ _ => .of_eq rfl rfl rfl) does_done
  refine handlesInTurn_bind (handlesInTurn_of_idled hscan) fun events => ?_
  refine handlesInTurn_bind (handleEach_handlesInTurn events .empty) fun result => ?_
  refine handlesInTurn_of_idled (does_bind (does_ask fun _ h => .refl h) fun wanted => ?_)
  cases wanted with
  | true => exact does_bind startWatch_idled fun _ => does_done result
  | false => exact does_bind (does_done ()) fun _ => does_done result

/-! ## Leaving -/

/-- A step with which an instance that is registered under an id no longer is. -/
def Step.Loses (x : Step Host) (id : String) (n : Nat) : Prop :=
  x.before.registry.get? id = some n ∧ x.after.registry.get? id ≠ some n

instance (x : Step Host) (id : String) (n : Nat) : Decidable (x.Loses id n) :=
  inferInstanceAs (Decidable (_ ∧ _))

theorem Host.perform_loses {now : Nat} {d : Deed} (hn : h.registry.get? id = some n)
    (hafter : (h.perform now d).registry.get? id ≠ some n) :
    d = .unregister id ∨
      ∃ m, d = .register id m ∧ (h.perform now d).past = h.past ++ [.registered id m] := by
  -- A deed that is about no registration of the id cannot have lost it.
  have hspared (hs : d.SparesId id) : False := hafter ((perform_sparesId hs).1.trans hn)
  cases d with
  | register id' m =>
    obtain rfl : id' = id := Classical.byContradiction hspared
    cases hblank : isBlankText id' with
    | true =>
      rw [perform, register_blank hblank] at hafter
      exact absurd hn hafter
    | false => exact .inr ⟨m, rfl, by simp [perform, register_not_blank hblank]; rfl⟩
  | unregister id' =>
    obtain rfl : id' = id := Classical.byContradiction hspared
    exact .inl rfl
  | _ => exact (hspared trivial).elim

/-- What loses an instance takes it out, or registers under its id. -/
theorem Program.Works.loses {allowed : Deed → Prop} {p : HostProgram α}
    (hw : p.Works allowed) (hr : p.Reaches Undisturbed t h pre x) (hloses : x.Loses id n) :
    allowed (.unregister id) ∧ .unregistered id n ∈ x.adds ∨
      ∃ m, allowed (.register id m) ∧ .registered id m ∈ x.adds := by
  obtain ⟨q, u, h', hrun⟩ := hr
  obtain ⟨d, hd, hafter⟩ := hw.does.own hrun x (by simp) (hrun.own x (by simp))
  obtain ⟨hn, hlost⟩ := hloses
  rw [hafter] at hlost
  obtain rfl | ⟨m, rfl, hpast⟩ := Host.perform_loses hn hlost
  · refine .inl ⟨hd.resolve_left (fun hquiet => hquiet), ?_⟩
    have hadds : x.adds = [.unregistered id n] :=
      Step.adds_eq (by rw [hafter, Host.perform, Host.unregister_some hn, Host.past_happen]; rfl)
    simp [hadds]
  · exact .inr ⟨m, hd.resolve_left (fun hquiet => hquiet), by simp [Step.adds_eq (hafter ▸ hpast)]⟩

/-! ## What has been done before -/

/-- Undisturbed, a drain of what is registered tells it to stop. -/
theorem drain_calls_stop {timeoutMs : Nat} {i : Instance} {r : Except LifecycleError Unit}
    (hrun : (drain n timeoutMs).Run Undisturbed t h steps (done r) u h') (hl : h.Linked)
    (hn : h.registry.get? i.id = some n) (hi : h.instance? n = some i) :
    .called n .stop ∈ ownHappenings steps := by
  obtain ⟨x, hx, hcalled⟩ := drain_done_firstStop (hrun.mono fun _ _ => False.elim) hl hi
  obtain ⟨pre, post, hsteps⟩ := List.append_of_mem (List.mem_of_find?_eq_some hx)
  obtain ⟨q, u, hpre⟩ := (hrun.reaches hsteps).run
  -- Nobody else acts and a drain registers nothing, so the look-up finds its instance.
  have hreg : x.before.registry = h.registry :=
    (drain_works n timeoutMs).registry (fun _ => Deed.IsDraining.sparesRegistry) hpre
  rwa [hreg, hn, Option.getD_some] at hcalled

/-- What a run of an event has done with an instance before a step: it has drained it
and told it to stop, and has not started it. -/
structure DrainedBefore (n : Nat) (h : Host) (pre : List (Step Host)) (x : Step Host) :
    Prop where
  past : x.before.past = h.past ++ ownHappenings pre
  drained : HasDrained Undisturbed n h pre
  stopped : .called n .stop ∈ ownHappenings pre
  notStarted : ∀ ending, .ended n .start ending ∉ ownHappenings pre

theorem HasDrained.calls_stop (hd : HasDrained Undisturbed n h pre) (hs : h.Sound)
    (hn : h.registry.get? id = some n) : .called n .stop ∈ ownHappenings pre := by
  obtain ⟨before, drained, after, timeoutMs, r, t, h₁, u, h', rfl, hreg, hinst, hrun, -⟩ := hd
  obtain ⟨i, hi, rfl⟩ := hs.reports hn
  have hlater : h.Later h₁ := .of_eq hinst hreg
  have hi₁ : h₁.instance? n = some i := by rwa [Host.instance?, hinst]
  have hcalled := drain_calls_stop hrun (hlater.linked hs.linked) (hreg ▸ hn) hi₁
  simp [hcalled]

/-- What is taken out where nobody disturbs has been drained before. -/
theorem TakesOutFound.drainedBefore (ht : TakesOutFound Undisturbed id h pre x)
    (hown : ∀ o ∈ pre, o.own = true) (hpast : x.before.past = h.past ++ ownHappenings pre)
    (hs : h.Sound) (hmem : .unregistered id n ∈ x.adds) : DrainedBefore n h pre x := by
  obtain ⟨-, -, hfound⟩ := ht.takesOut.unregistered hmem
  have hn : h.registry.get? id = some n :=
    hfound.resolve_right fun ⟨o, ho, hdisturbs⟩ => absurd hdisturbs.1 (by simp [hown o ho])
  obtain ⟨m, hm, hdrained, honly⟩ := ht.drained hmem
  obtain rfl : n = m := Option.some_inj.mp (hn.symm.trans hm)
  exact ⟨hpast, hdrained, hdrained.calls_stop hs hn, fun _ =>
    Deed.ended_not_left honly Deed.IsDraining.not_startEnd⟩

theorem TakesOutFound.drainedBefore_of_loses (ht : TakesOutFound Undisturbed e.id h pre x)
    (hr : (handle e).Reaches Undisturbed t h pre x) (hs : h.Sound) (hloses : x.Loses id n) :
    DrainedBefore n h pre x := by
  obtain ⟨q, u, hrun⟩ := hr.run
  have hown : ∀ o ∈ pre, o.own = true := hrun.own
  obtain ⟨-, hmem⟩ | ⟨m, -, hmem⟩ := (handle_works e).loses hr hloses
  · obtain ⟨rfl, -⟩ := ht.takesOut.unregistered hmem
    exact ht.drainedBefore hown ((handle_works e).past_eq hrun) hs hmem
  · -- To register over it, others would have to have brought it in.
    obtain ⟨rfl, hbrought⟩ := ht.takesOut.registered hmem
    obtain ⟨o, ho, hin⟩ := hbrought n hloses.1
    exact absurd hin.1 (by simp [hown o ho])

/-- Where events are handled one after another, whatever leaves the registry has been
drained by the event that it leaves with and told to stop since it was last started,
unless that event enables its id and registers over it. -/
theorem handle_drains_what_it_loses {q : HostProgram (Except HostError Unit)}
    (hseq : h.Sequential) (hrun : (handle e).Run Undisturbed t h steps q u h')
    (hsteps : steps = pre ++ x :: post) (hloses : x.Loses id n) :
    DrainedBefore n h pre x ∨
      e.change = .enable ∧ id = e.id ∧ ∃ m, .registered id m ∈ x.adds := by
  have hr := hrun.reaches hsteps
  have hown : x.own = true := hrun.own x (by simp [hsteps])
  have hleaves := (handle_works e).loses hr hloses
  -- An enabling takes nothing out, a disabling changes no registration, and the other two
  -- take out only what they have found.
  cases he : e.change with
  | enable =>
    rw [he] at hleaves
    obtain ⟨hd, -⟩ | ⟨m, hid, hmem⟩ := hleaves
    · exact hd.elim
    · exact .inr ⟨rfl, hid, m, hmem⟩
  | disable =>
    rw [he] at hleaves
    obtain ⟨⟨m, hd⟩, -⟩ | ⟨m, ⟨k, hd⟩, -⟩ := hleaves
    · exact (Deed.IsDraining.sparesRegistry hd).elim
    · exact (Deed.IsDraining.sparesRegistry hd).elim
  | update =>
    have ht := handle_reaches_takesOutFound hr hown hseq.sound (.inl he)
    exact .inl (ht.drainedBefore_of_loses hr hseq.sound hloses)
  | remove =>
    have ht := handle_reaches_takesOutFound hr hown hseq.sound (.inr he)
    exact .inl (ht.drainedBefore_of_loses hr hseq.sound hloses)

/-- The busy host after its extension has been enabled. -/
private def enabledOnce : Host :=
  ((handle (.of .enable (.at "busy" "a"))).alone 7 .busy).2.2.2

private theorem enabledOnce_sequential : enabledOnce.Sequential := by
  obtain ⟨r, hends⟩ := (handle_works (.of .enable (.at "busy" "a"))).timed.alone_ends 7 .busy
  exact .handled (.empty rfl) hends

/-- What was enabled is drained before it is removed. -/
theorem remove_after_enable_drains :
    ∃ pre x post, ((handle (.of .remove (.at "busy" "a"))).alone 9 enabledOnce).1 =
        pre ++ x :: post ∧ x.Loses "a" 0 ∧ DrainedBefore 0 enabledOnce pre x := by
  let run := (handle (.of .remove (.at "busy" "a"))).alone 9 enabledOnce
  have hex : ∃ x ∈ run.1, x.Loses "a" 0 := by decide +kernel
  obtain ⟨x, hx, hloses⟩ := hex
  obtain ⟨pre, post, hsteps⟩ := List.append_of_mem hx
  have hbefore := handle_drains_what_it_loses enabledOnce_sequential (alone_run _ _ _) hsteps hloses
  exact ⟨pre, x, post, hsteps, hloses, hbefore.resolve_right nofun⟩

/-- The same extension is enabled twice. -/
private def enabledTwice : Host :=
  (HostMachine.run (Machine.start .busy)
    (handleBatch [.of .enable (.at "busy" "a"), .of .enable (.at "busy" "a")])).2.state

/-- The second instance takes the place of the first one, which was started and has never
been told to stop. -/
theorem enable_replaces_started_instance :
    enabledTwice.registry.get? "a" = some 1 ∧ enabledTwice.past = [
        .constructed "a" "0.0.0" ⟨0, []⟩ false, .registered "a" 0,
        .called 0 .start, .ended 0 .start .succeeded,
        .constructed "a" "0.0.0" ⟨0, []⟩ false, .registered "a" 1,
        .called 1 .start, .ended 1 .start .succeeded] := by
  decide +kernel

end ExtensionHost
