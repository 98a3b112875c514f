import ExtensionHost.Proofs.DrainCourse
import ExtensionHost.Proofs.EventCourse
import ExtensionHost.Proofs.Reached

/-!
# Removal

A removal succeeds whatever the calls return that it makes, two stops that fail included:
what is registered under the id goes, with its context, and nothing else of the registry is
different. So what became of an id in any events does not matter once it has been removed.
-/

namespace ExtensionHost

open Program

variable {α β : Type} {t u n now : Nat} {h h' : Host} {d : Descriptor} {i : Instance}
variable {id : String} {x : Deed}

/-! ## Erasing -/

theorem eraseEntry_insertEntry {key : String} {value : α} {table : List (String × α)} :
    eraseEntry key (insertEntry key value table) = eraseEntry key table := by
  induction table with
  | nil => simp [insertEntry, eraseEntry]
  | cons entry rest ih =>
    simp only [insertEntry]
    split
    · simp [eraseEntry]
    split
    next heq => simp [eraseEntry, heq]
    next =>
      -- Neither side looks at the value of the entry that stays in front.
      simp only [eraseEntry, List.filter_cons] at ih ⊢
      rw [ih]

theorem eraseEntry_eraseEntry {key : String} {table : List (String × α)} :
    eraseEntry key (eraseEntry key table) = eraseEntry key table := by
  simp [eraseEntry]

theorem eraseEntry_of_lookup {key : String} {table : List (String × α)}
    (hnone : table.lookup key = none) : eraseEntry key table = table := by
  refine List.filter_eq_self.mpr fun entry hentry => ?_
  have hne : key ≠ entry.1 := by simpa using List.lookup_eq_none_iff.mp hnone entry hentry
  exact decide_eq_true hne.symm

namespace Registry

variable {r : Registry} {context : Option Context}

/-- What is inserted does not matter where it is taken out. -/
theorem erase_insert : (r.insert id n context).erase id = r.erase id := by
  cases context with
  | none =>
    simp only [insert, erase, storeContext, storeRecord, dropRecord, eraseEntry_insertEntry,
      eraseEntry_eraseEntry]
  | some context =>
    simp only [insert, erase, storeContext, storeRecord, dropRecord, eraseEntry_insertEntry]

theorem erase_erase : (r.erase id).erase id = r.erase id := by
  simp only [erase, storeContext, dropRecord, eraseEntry_eraseEntry]

/-- Where nothing is registered, nothing is taken out. -/
theorem erase_of_none (hrecord : r.get? id = none) (hcontext : r.context? id = none) :
    r.erase id = r := by
  simp only [erase, storeContext, dropRecord, eraseEntry_of_lookup hrecord,
    eraseEntry_of_lookup hcontext]

end Registry

/-! ## The registry without an id -/

/-- Whether a deed changes no registration but that of an id. -/
def Deed.IsAbout (id : String) : Deed → Prop
  | .register id' _ | .unregister id' => id' = id
  | _ => True

theorem Deed.SparesRegistry.isAbout (hx : x.SparesRegistry) : x.IsAbout id := by
  cases x <;> first | exact hx.elim | trivial

/-- What becomes of one id does not matter to a registry without it. -/
theorem Host.perform_erase (hx : x.IsAbout id) :
    (h.perform now x).registry.erase id = h.registry.erase id := by
  cases x with
  | register id' n =>
    obtain rfl : id' = id := hx
    cases hblank : isBlankText id' with
    | true => rw [perform, register_blank hblank]
    | false =>
      rw [perform, register_not_blank hblank]
      exact Registry.erase_insert
  | unregister id' =>
    obtain rfl : id' = id := hx
    rw [perform, unregister_registry, Registry.erase_erase]
  | _ => exact congrArg (Registry.erase · id) (perform_registry trivial)

theorem Program.Works.erase {allowed : Deed → Prop} {p : HostProgram α} {r : Except String α}
    (hw : p.Works allowed) (habout : ∀ x, allowed x → x.IsAbout id)
    (hends : p.Ends t h r u h') : h'.registry.erase id = h.registry.erase id := by
  obtain ⟨steps, hrun⟩ := hends
  refine hw.undisturbed (R := fun a b => b.registry.erase id = a.registry.erase id) hrun
    (fun _ => rfl) (fun hab hbc => hbc.trans hab) fun h now x hx => Host.perform_erase ?_
  exact hx.elim (fun hquiet => hquiet.sparesRegistry.isAbout) (habout x)

theorem Deed.IsEnabling.isAbout (hid : d.id = id) (hx : x.IsEnabling d) : x.IsAbout id := by
  cases x with
  | register id' n => exact Eq.trans hx hid
  | unregister => exact hx.elim
  | _ => trivial

theorem Deed.IsUpdating.isAbout {old : Descriptor} (hid : d.id = id) (hold : old.id = id)
    (hx : x.IsUpdating d old n) : x.IsAbout id := by
  rcases hx with hdraining | rfl | hcall | henabling | hback | hhook
  · exact hdraining.sparesRegistry.isAbout
  · exact hid
  · exact hcall.sparesRegistry.isAbout
  · exact henabling.isAbout hid
  · exact hback.isAbout hold
  · exact hhook.sparesRegistry.isAbout

/-- An event changes no registration but that of its id, even if it breaks down. -/
theorem handle_ends_erase {e : Event} {r : Except String (Except HostError Unit)} (hs : h.Sound)
    (hends : (handle e).Ends t h r u h') :
    h'.registry.erase e.id = h.registry.erase e.id := by
  have henable {d : Descriptor} {r : Except String (Except HostError Unit)}
      (hends : (enable d).Ends t h r u h') : h'.registry.erase d.id = h.registry.erase d.id :=
    (enable_works d).erase (fun _ => Deed.IsEnabling.isAbout rfl) hends
  unfold handle at hends
  split at hends
  · exact henable hends
  · exact (disable_works _).erase (fun _ ⟨_, hx⟩ => hx.sparesRegistry.isAbout) hends
  · cases hn : h.registry.get? e.id with
    | none => exact henable (update_ends_of_none hn hends)
    | some n =>
      -- What is gone back to reports the id that it was registered under.
      obtain ⟨old, hi, hid⟩ := hs.reports hn
      refine (updateRegistered_works e.descriptor n old).erase
        (fun _ => Deed.IsUpdating.isAbout rfl hid) (update_ends_registered hn hi hends)
  · refine (remove_works _).erase (fun x hx => ?_) hends
    rcases hx with rfl | ⟨n, hdraining | hremoving⟩
    · rfl
    · exact hdraining.sparesRegistry.isAbout
    · exact hremoving.sparesRegistry.isAbout

/-! ## Calls that return -/

/-- Whether a removal makes a call. -/
def Call.IsOfRemoval : Call → Prop
  | .prepare | .closeConnections | .stop | .cleanup true => True
  | .start | .cleanup false => False

/-- Whatever the calls return that a removal makes, they return. -/
structure Host.CallsReturn (h : Host) (id : String) : Prop where
  instances : ∀ i, h.record? id = some i → ∀ call : Call, call.IsOfRemoval →
    ∀ k, (i.conduct.respond call k).IsResult
  gateways : ∀ g ∈ h.gateways, ∀ call, (g.2.respond id call).IsResult
  hooks : ∀ hook ∈ h.hooks, (hook.respond id .removed).IsResult

theorem Call.IsOfDrain.isOfRemoval {call : Call} (hcall : call.IsOfDrain) : call.IsOfRemoval := by
  cases call <;> first | exact hcall.elim | trivial

/-- A program that comes to values only is followed by what comes after it. -/
theorem Program.ends_bind_of_value {σ ι : Type} {p : Program σ ι α} {k : α → Program σ ι β}
    {s s' : σ} {r : Except String β} (hp : ∀ {r u s'}, p.Ends t s r u s' → ∃ a, r = .ok a)
    (hends : (p.bind k).Ends t s r u s') :
    ∃ a t₁ s₁, p.Ends t s (.ok a) t₁ s₁ ∧ (k a).Ends t₁ s₁ r u s' := by
  rcases ends_bind.mp hends with hboth | ⟨message, -, hfirst⟩
  · exact hboth
  · obtain ⟨a, ha⟩ := hp hfirst
    cases ha

theorem Program.forEach_ends_value {σ ι : Type} {f : α → Program σ ι Unit} {as : List α} {s s' : σ}
    {r : Except String Unit}
    (hf : ∀ a ∈ as, ∀ {t s r u s'}, (f a).Ends t s r u s' → ∃ b, r = .ok b)
    (hends : (forEach f as).Ends t s r u s') : ∃ b, r = .ok b := by
  induction as generalizing t s with
  | nil => exact ⟨(), (ends_done.mp hends).1⟩
  | cons a as ih =>
    obtain ⟨hfirst, hrest⟩ := List.forall_mem_cons.mp hf
    obtain ⟨_, t₁, s₁, -, hmore⟩ := ends_bind_of_value hfirst hends
    exact ih hrest hmore

theorem noteFailure_ends_value {ε : Type} {notice : ε → Notice} {failed : Except ε Unit}
    {r : Except String Unit} (hends : (noteFailure notice failed).Ends t h r u h') :
    ∃ a, r = .ok a :=
  ⟨(), (noteFailure_noticed hends).1⟩

/-- A drain that meets only results comes to a value. -/
theorem drain_ends_value {timeoutMs : Nat} {r : Except String (Except LifecycleError Unit)}
    (ho : h.Offers Response.IsResult n i) (hends : (drain n timeoutMs).Ends t h r u h') :
    ∃ a, r = .ok a := by
  obtain ⟨steps, hrun⟩ := hends
  have hstill : (drain n timeoutMs).Run (Host.StillOffers Response.IsResult n i) t h steps
      (ended r) u h' := hrun.mono fun _ _ => False.elim
  obtain ⟨-, hend⟩ := hstill.sound Host.StillOffers.covers (drain_givesResult t h ho)
  cases r with
  | ok a => exact ⟨a, rfl⟩
  | error message =>
    obtain ⟨a, ha, -⟩ := hend
    cases ha

theorem Ending.outcome_value {response : Response} (hresult : response.IsResult) :
    ∃ a, response.ending.outcome = .ok a := by
  cases hending : response.ending with
  | succeeded => exact ⟨_, rfl⟩
  | failed e => exact ⟨_, rfl⟩
  | brokeDown message => exact absurd hending (hresult message)

theorem runHook_ends_value {hook : CleanupHook} {phase : CleanupPhase} {r : Except String Unit}
    (hresult : (hook.respond id phase).IsResult)
    (hends : (runHook id phase hook).Ends t h r u h') : ∃ a, r = .ok a := by
  have hhappened {r : Except String Unit} {u h'} (hends : (changeAt fun now (h : Host) =>
      h.happen now (.hookRun hook.name id phase) : HostProgram Unit).Ends t h r u h') :
      ∃ a, r = .ok a := ⟨(), (ends_changeAt.mp hends).1⟩
  obtain ⟨_, t₁, h₁, -, hanswer⟩ := ends_bind_of_value hhappened hends
  have hwait {r u h'} (hends : (hook.respond id phase).wait.Ends t₁ h₁ r u h') :
      ∃ a, r = .ok a := by
    obtain ⟨hr, -, -⟩ := wait_ends.mp hends
    exact hr ▸ Ending.outcome_value hresult
  obtain ⟨answer, t₂, h₂, -, hnote⟩ := ends_bind_of_value hwait hanswer
  exact noteFailure_ends_value hnote

/-- Hooks that return are run to the last one. -/
theorem runHooks_ends_value {phase : CleanupPhase} {r : Except String Unit}
    (hhooks : ∀ hook ∈ h.hooks, (hook.respond id phase).IsResult)
    (hends : (runHooks id phase).Ends t h r u h') : ∃ a, r = .ok a :=
  forEach_ends_value (fun hook hmem => runHook_ends_value (hhooks hook hmem))
    (ends_ask_bind.mp hends)

/-- What has been taken out is told to clean up and the hooks run, if all of them return. -/
theorem removeTaken_ends_value {r : Except String (Except HostError Unit)}
    (hi : h.instance? n = some i)
    (hcleanup : ∀ k, (i.conduct.respond (.cleanup true) k).IsResult)
    (hhooks : ∀ hook ∈ h.hooks, (hook.respond d.id .removed).IsResult)
    (hends : (removeTaken d n).Ends t h r u h') : ∃ a, r = .ok a := by
  have hcall {r u h'} (hends : (callInstance n (.cleanup true)).Ends t h r u h') :
      ∃ a, r = .ok a := by
    obtain ⟨hr, -, -⟩ := callInstance_ends.mp hends
    rw [Host.beginCall_some hi] at hr
    exact hr ▸ Ending.outcome_value (hcleanup _)
  obtain ⟨cleaned, t₁, h₁, hcleaned, hrest⟩ := ends_bind_of_value hcall hends
  obtain ⟨_, t₂, h₂, hnoted, hrest⟩ := ends_bind_of_value noteFailure_ends_value hrest
  have hcalls : (callInstance n (.cleanup true)).Works (Deed.IsCall (· = n) (· = .cleanup true)) :=
    callInstance_isCall rfl rfl
  have hsetup : h₂.setup = h.setup :=
    (noteFailure_noticed hnoted).2.setup.trans (hcalls.ends_grew hcleaned).setup
  have hsame : h₂.hooks = h.hooks := congrArg Setup.hooks hsetup
  obtain ⟨_, t₃, h₃, -, hdone⟩ := ends_bind_of_value (runHooks_ends_value (hsame ▸ hhooks)) hrest
  exact ⟨_, (ends_done.mp hdone).1⟩

/-- A removal whose calls return comes to a value. -/
theorem remove_ends_value {r : Except String (Except HostError Unit)} (hs : h.Sound)
    (hc : h.CallsReturn d.id) (hends : (remove d).Ends t h r u h') : ∃ a, r = .ok a := by
  have hfound := ends_ask_bind.mp hends
  cases hn : h.registry.get? d.id with
  | none => exact ⟨_, ((remove_ends_of_none hn).mp hends).1⟩
  | some n =>
    obtain ⟨i, hi, hid⟩ := hs.reports hn
    have hrecord : h.record? d.id = some i := by rw [Host.record?, hn, Option.bind_some, hi]
    have ho : h.Offers Response.IsResult n i :=
      { there := ⟨i, hi, rfl⟩
        registered := hid ▸ hn
        calls := fun call hcall k => hc.instances i hrecord call hcall.isOfRemoval k
        gateways := hid ▸ hc.gateways }
    rw [hn] at hfound
    obtain ⟨drained, t₁, h₁, hdrained, hrest⟩ :=
      ends_bind_of_value (drain_ends_value ho) (ends_ask_bind.mp hfound)
    obtain ⟨_, t₂, h₂, hnoted, hrest⟩ := ends_bind_of_value noteFailure_ends_value hrest
    have htaken := ends_act.mp hrest
    -- The instance is what it was made as, and the setup has stayed.
    obtain ⟨-, hnoticed⟩ := noteFailure_noticed hnoted
    have hgrew := ((drain_works n _).ends_grew hdrained).trans hnoticed.grew
    have hgrew' := hgrew.trans (h₂.perform_grew t₂ (.unregister d.id))
    obtain ⟨i', hi', hmake⟩ := hgrew'.instances hi
    have hconduct : i'.conduct = i.conduct := congrArg (·.2.2) hmake
    have hhooks : (h₂.perform t₂ (.unregister d.id)).hooks = h.hooks :=
      congrArg Setup.hooks hgrew'.setup
    refine removeTaken_ends_value hi' (fun k => ?_) (hhooks ▸ hc.hooks) htaken
    exact hconduct ▸ hc.instances i hrecord (.cleanup true) trivial k

/-! ## Removals -/

/-- What a removal comes to that nobody disturbs. It succeeds if what it calls returns, and
breaks down only where foreign code does; then what was registered under the id has gone, and
what is registered under other ids has stayed. Where nothing was registered, nothing is done. -/
structure Removes (d : Descriptor) (t : Nat) (h : Host) (r : Except String (Except HostError Unit))
    (u : Nat) (h' : Host) : Prop where
  succeeds : h.CallsReturn d.id → r = .ok (.ok ())
  brokeDown : ∀ message, r = .error message → h'.BrokeDown message
  result : ∀ result, r = .ok result →
    result = .ok () ∧ h'.registry.get? d.id = none ∧ h'.registry.context? d.id = none ∧
      h'.registry = h.registry.erase d.id
  others : h.SparesOthers d.id h'
  unregistered : h.registry.get? d.id = none → r = .ok (.ok ()) ∧ u = t ∧ h' = h

theorem remove_ends_removes {meant : Descriptor → Blueprint → Prop}
    {r : Except String (Except HostError Unit)} (ho : h.InOrder meant)
    (hends : (remove d).Ends t h r u h') : Removes d t h r u h' := by
  have hresult : ∀ result, r = .ok result →
      result = .ok () ∧ h'.registry = h.registry.erase d.id := by
    rintro result rfl
    cases hn : h.registry.get? d.id with
    | none =>
      obtain ⟨hr, -, rfl⟩ := (remove_ends_of_none hn).mp hends
      have hcontext : h'.registry.context? d.id = none := by
        rw [ho.paired d.id, Host.record?, hn, Option.bind_none, Option.bind_none]
      exact ⟨Except.ok.inj hr, (Registry.erase_of_none hn hcontext).symm⟩
    | some n =>
      obtain ⟨i, hi, -⟩ := ho.sound.reports hn
      obtain ⟨hr, hreg, -⟩ := remove_ends_removed hn hi hends
      exact ⟨hr, hreg⟩
  refine ⟨fun hc => ?_, fun message hr => ?_, fun result hr => ?_, ?_, fun hn => ?_⟩
  · obtain ⟨result, hr⟩ := remove_ends_value ho.sound hc hends
    rw [hr, (hresult result hr).1]
  · rw [hr] at hends
    exact (remove_blames d).blames rfl hends
  · obtain ⟨hok, hreg⟩ := hresult result hr
    refine ⟨hok, ?_, ?_, hreg⟩
    · rw [hreg, Registry.get?_erase, if_pos rfl]
    · rw [hreg, Registry.context?_erase, if_pos rfl]
  · obtain ⟨steps, hrun⟩ := hends
    exact handle_run_sparesOthers (e := .of .remove d) hrun ho.sound
  · exact (remove_ends_of_none hn).mp hends

/-- Events that are about one id keep the registry without it, and the host in order. -/
theorem Host.Course.erase {xs : List Handling}
    (hc : Host.Course Host.Altered h xs h') (ho : h.InOrder fun _ _ => True)
    (hid : ∀ x ∈ xs, x.event.id = id) :
    h'.registry.erase id = h.registry.erase id ∧ h'.InOrder fun _ _ => True := by
  refine (hc.preserves (I := fun g => g.registry.erase id = h.registry.erase id ∧
    g.InOrder fun _ _ => True) (fun haltered hI => ?_) (fun x hx hrun hI => ?_) ⟨rfl, ho⟩).2
  · exact ⟨haltered.registry ▸ hI.1, haltered.inOrder hI.2⟩
  · obtain ⟨u, hends⟩ := hrun
    have hkept := handle_ends_erase hI.2.sound hends
    rw [hid x hx] at hkept
    exact ⟨hkept.trans hI.1, (handle_ends_keepsOrder hends).inOrder (Setup.builds_anything _) hI.2⟩

/-- On every host that is reached, a removal that nobody disturbs comes to an end if every call
of foreign code returns or breaks down, and removes.
So events about one id, whatever came of them, leave the registry as it was before them without
the id, if a removal is the last one that came to a result. -/
theorem remove_forgets_id {m : HostMachine} (hm : m.Reached fun _ => True) (d : Descriptor) :
    (∀ t, ∃ r u h', (remove d).Ends t m.state r u h') ∧
    (∀ t r u h', (remove d).Ends t m.state r u h' → Removes d t m.state r u h') ∧
    ∀ (xs : List Handling) (x : Handling) (result : Except HostError Unit) (h' : Host),
      Host.Course Host.Altered m.state (xs ++ [x]) h' →
      (∀ y ∈ xs ++ [x], y.event.id = d.id) → x.event.change = .remove → x.result = .ok result →
      h'.registry = m.state.registry.erase d.id := by
  obtain ⟨-, ho, -⟩ := (hm.mono fun S _ => S.builds_anything).inOrder
  refine ⟨fun t => ?_, fun t r u h' hends => remove_ends_removes ho hends, ?_⟩
  · obtain ⟨r, hends⟩ := (remove_works d).timed.alone_ends t m.state
    exact ⟨r, _, _, hends⟩
  · intro xs x result h' hc hid hchange hr
    obtain ⟨g, hfirst, haltered, ⟨u, hends⟩, hlast⟩ := hc.of_append Host.Altered.refl
    obtain ⟨herase, hog⟩ := hfirst.erase ho fun y hy => hid y (List.mem_append_left _ hy)
    -- What the removal finds is what the events before it have left.
    rw [handle, hchange] at hends
    obtain ⟨-, -, -, hreg⟩ := (remove_ends_removes (haltered.inOrder hog) hends).result result hr
    rw [Host.Altered.registry hlast, hreg, haltered.registry]
    exact hid x (List.mem_append_right _ List.mem_cons_self) ▸ herase

/-! ## A host where everything fails -/

/-- The answer of everything that fails. -/
private def refusal : Response :=
  ⟨0, .failed ⟨"no", []⟩⟩

/-- An extension of which every call fails. -/
private def refusingFactory : Factory :=
  .uniform "e" { Conduct.idle with respond := fun _ _ => refusal, hasHooks := true } .zero

/-- A host with that extension, and with a gateway and a hook that fail, too. -/
private def refusingHost : Host :=
  { Host.serving LifecyclePolicy.default refusingFactory ["udp-a"] with
    gateways := [(.udp, ⟨fun _ _ => refusal, fun _ => 0⟩)]
    hooks := [⟨"hook", fun _ _ => refusal⟩] }

/-- The host after the extension has been enabled in a task. -/
private def refusing : HostMachine :=
  let started := (Machine.start refusingHost).spawn hostJobs false
    (.handle (.of .enable (.at "e" "udp-a")))
  match started.tasks with
  | a :: _ => started.runTask hostJobs a
  | [] => started

private theorem refusing_reached : refusing.Reached (· = refusingHost.setup) :=
  .turn (.setOff false (.handle (.of .enable (.at "e" "udp-a")))
    (.fresh ⟨rfl, rfl, rfl⟩ rfl)) List.mem_cons_self rfl

/-- All that a removal calls returns, though nothing of it succeeds. -/
private theorem refusing_callsReturn : refusing.state.CallsReturn "udp-a" := by
  let returns (_ : Descriptor) (b : Blueprint) : Prop :=
    ∀ call k, (b.conduct.respond call k).IsResult
  have hbuilds : refusingHost.setup.Builds returns := by
    have hf : refusingFactory.Builds returns := Factory.uniform_builds fun _ _ _ => nofun
    have hS : (Host.serving LifecyclePolicy.default refusingFactory
        ["udp-a"]).setup.Builds returns := Host.serving_builds hf
    exact ⟨hS.table, nofun⟩
  have hsetup : refusing.state.setup = refusingHost.setup := refusing_reached.setup
  have hreached : refusing.Reached (·.Builds returns) :=
    refusing_reached.mono fun _ hS => hS ▸ hbuilds
  obtain ⟨-, ho, -⟩ := hreached.inOrder
  refine ⟨fun i hi call _ k => ?_, ?_, ?_⟩
  · obtain ⟨n, -, hn⟩ := Option.bind_eq_some_iff.mp hi
    obtain ⟨d, -, b, context, hmake, -, -, hb⟩ := ho.stems hn
    have hconduct : i.conduct = b.conduct := congrArg (·.2.2) hmake
    rw [hconduct]
    rcases hb with hreturns | rfl
    · exact hreturns call k
    · exact nofun
  · have hgateways : refusing.state.gateways = refusingHost.gateways :=
      congrArg Setup.gateways hsetup
    rw [hgateways]
    intro g hg call
    obtain rfl := List.mem_singleton.mp hg
    exact nofun
  · have hhooks : refusing.state.hooks = refusingHost.hooks := congrArg Setup.hooks hsetup
    rw [hhooks]
    intro hook hmem
    obtain rfl := List.mem_singleton.mp hmem
    exact nofun

/-- Where everything fails, what is registered is removed all the same, at once or after an
update of it. -/
theorem remove_forgets_refusing :
    let updated := ((handle (.of .update (.at "e" "udp-a"))).alone 7 refusing.state).2.2.2
    let removed := ((handle (.of .remove (.at "e" "udp-a"))).alone 9 updated).2.2.2
    refusing.state.registry.get? "udp-a" = some 0 ∧
      (∃ u h', (remove (.at "e" "udp-a")).Ends 9 refusing.state (.ok (.ok ())) u h' ∧
        h'.registry = refusing.state.registry.erase "udp-a") ∧
      .ended 0 .stop (.failed ⟨"no", []⟩) ∈ removed.past ∧
      removed.registry = refusing.state.registry.erase "udp-a" := by
  let update := (handle (.of .update (.at "e" "udp-a"))).alone 7 refusing.state
  let removal := (handle (.of .remove (.at "e" "udp-a"))).alone 9 update.2.2.2
  have hm : refusing.Reached fun _ => True := refusing_reached.mono fun _ _ => trivial
  obtain ⟨hends, hremoves, hlast⟩ := remove_forgets_id hm (.at "e" "udp-a")
  refine ⟨by decide +kernel, ?_, by decide +kernel, ?_⟩
  · obtain ⟨r, u, h', hends⟩ := hends 9
    have hremoved := hremoves 9 r u h' hends
    obtain rfl := hremoved.succeeds refusing_callsReturn
    obtain ⟨-, -, -, hreg⟩ := hremoved.result _ rfl
    exact ⟨u, h', hends, hreg⟩
  · obtain ⟨r, hupdated⟩ :=
      (handle_works (.of .update (.at "e" "udp-a"))).timed.alone_ends 7 refusing.state
    have hvalue : removal.2.1.value? = some (.ok ()) := by decide +kernel
    have hdone : (handle (.of .remove (.at "e" "udp-a"))).Ends 9 update.2.2.2 (.ok (.ok ()))
        removal.2.2.1 removal.2.2.2 := ends_of_value? hvalue
    exact hlast [⟨_, 7, refusing.state, r, update.2.2.2⟩]
      ⟨_, 9, update.2.2.2, .ok (.ok ()), removal.2.2.2⟩ (.ok ()) _
      ⟨.refl _, ⟨_, hupdated⟩, .refl _, ⟨_, hdone⟩, .refl _⟩ (by simp [Event.id]) rfl rfl

end ExtensionHost
