import ExtensionHost.Proofs.BreakDown
import ExtensionHost.Proofs.Draining
import ExtensionHost.Proofs.Tasks

/-!
# Instances tally with the history

Where events are handled one after another, the state of every registered instance can be
told from the history: start was called on it once and has come to an end, it is started if
that succeeded and no stop has since, and it is not enabled any more once a stop has
succeeded. Events keep this whatever foreign code does, also where they break down.
-/

namespace ExtensionHost

open Program

variable {α β : Type} {allowed : Deed → Prop} {t u now n m : Nat} {h h' : Host} {i : Instance}
variable {d : Descriptor} {id : String} {x : Deed} {e : Event}

/-! ## What the history tells of an instance -/

/-- Start has succeeded on the instance with the number. -/
def Host.HasStarted (h : Host) (n : Nat) : Prop :=
  .ended n .start .succeeded ∈ h.past

/-- Stop has succeeded on the instance with the number. -/
def Host.HasStopped (h : Host) (n : Nat) : Prop :=
  .ended n .stop .succeeded ∈ h.past

/-- The history vouches for the state of an instance. -/
structure Host.Vouches (h : Host) (n : Nat) (i : Instance) : Prop where
  answered : ∃ ending, .ended n .start ending ∈ h.past
  started : i.started = true ↔ h.HasStarted n ∧ ¬ h.HasStopped n
  enabled : i.enabled = true → ¬ h.HasStopped n

/-- Whether a deed neither starts, stops nor enables the instance with the number. -/
def Deed.Spares (n : Nat) : Deed → Prop
  | .endCall m call ending => m = n → ending = .succeeded → call ≠ .start ∧ call ≠ .stop
  | .switch m enabled => m = n → enabled = false
  | _ => True

theorem Host.mem_past_perform {w : Happening} (hw : w ∈ h.past) : w ∈ (h.perform now x).past := by
  rcases h.perform_past now x with ⟨new, hpast, -⟩
  rw [hpast]
  exact List.mem_append_left _ hw

theorem Host.ended_mem_perform {call : Call} {ending : Ending} (hx : x ≠ .endCall n call ending) :
    .ended n call ending ∈ (h.perform now x).past ↔ .ended n call ending ∈ h.past := by
  rcases h.perform_past now x with ⟨new, hpast, hnew⟩
  rw [hpast, List.mem_append]
  refine or_iff_left fun hmem => hx ?_
  exact Deed.leaves_ended.mp (hnew _ hmem)

theorem Host.past_perform_endCall {call : Call} {ending : Ending} :
    (h.perform now (.endCall n call ending)).past = h.past ++ [.ended n call ending] := by
  simp [perform, endCall]

theorem Instance.started_callEnded {call : Call} {ending : Ending}
    (hstart : ¬ (call = .start ∧ ending = .succeeded))
    (hstop : ¬ (call = .stop ∧ ending = .succeeded)) :
    (i.callEnded call ending).started = i.started := by
  unfold callEnded
  split
  · exact absurd ⟨rfl, rfl⟩ hstart
  · exact absurd ⟨rfl, rfl⟩ hstop
  · split <;> rfl
  · rfl

namespace Deed.Spares

theorem not_ends {call : Call} (hx : x.Spares n) (hcall : call = .start ∨ call = .stop) :
    x ≠ .endCall n call .succeeded := by
  rintro rfl
  rcases hx rfl rfl with ⟨hstart, hstop⟩
  exact hcall.elim hstart hstop

theorem started_effect (hx : x.Spares n) : (x.effect now n i).started = i.started := by
  cases x with
  | beginCall m call =>
    simp only [effect]
    split <;> rfl
  | endCall m call ending =>
    simp only [effect]
    split
    next heq =>
      apply Instance.started_callEnded
      · rintro ⟨rfl, rfl⟩
        exact (hx heq rfl).1 rfl
      · rintro ⟨rfl, rfl⟩
        exact (hx heq rfl).2 rfl
    next => rfl
  | switch m enabled =>
    simp only [effect]
    split <;> rfl
  | _ => rfl

theorem enabled_effect (hx : x.Spares n) (he : (x.effect now n i).enabled = true) :
    i.enabled = true := by
  by_cases hswitch : ∃ enabled, x = .switch n enabled
  · rcases hswitch with ⟨enabled, rfl⟩
    rw [effect, if_pos rfl, hx rfl] at he
    cases he
  · rw [Deed.enabled_effect fun enabled heq => hswitch ⟨enabled, heq⟩] at he
    exact he

/-- The history goes on to vouch for an instance that is spared. -/
theorem vouches (hx : x.Spares n) (hv : h.Vouches n i) :
    (h.perform now x).Vouches n (x.effect now n i) := by
  have hstarted : (h.perform now x).HasStarted n ↔ h.HasStarted n :=
    Host.ended_mem_perform (hx.not_ends (.inl rfl))
  have hstopped : (h.perform now x).HasStopped n ↔ h.HasStopped n :=
    Host.ended_mem_perform (hx.not_ends (.inr rfl))
  rcases hv.answered with ⟨ending, hanswered⟩
  refine ⟨⟨ending, Host.mem_past_perform hanswered⟩, ?_, fun he => ?_⟩
  · rw [hx.started_effect, hstarted, hstopped]
    exact hv.started
  · rw [hstopped]
    exact hv.enabled (hx.enabled_effect he)

end Deed.Spares

/-! ## Hosts that tally -/

/-- The history tells of starts and stops only of instances that are there. -/
def Host.KnowsCalled (h : Host) : Prop :=
  ∀ n, h.HasStarted n ∨ h.HasStopped n → ∃ i, h.instance? n = some i

/-- The history vouches for every registered instance. -/
structure Host.Tallied (h : Host) : Prop where
  sound : h.Sound
  known : h.KnowsCalled
  vouched : ∀ {id n i}, h.registry.get? id = some n → h.instance? n = some i → h.Vouches n i

/-- Whether a deed registers nothing and spares every instance. -/
def Deed.IsPlain : Deed → Prop
  | .register _ _ => False
  | .endCall _ call ending => ending = .succeeded → call ≠ .start ∧ call ≠ .stop
  | .switch _ enabled => enabled = false
  | _ => True

theorem Deed.IsPlain.spares (hx : x.IsPlain) : x.Spares n := by
  cases x with
  | endCall m call ending => exact fun _ => hx
  | switch m enabled => exact fun _ => hx
  | _ => trivial

theorem Deed.IsPlain.fits (hx : x.IsPlain) : x.Fits h := by
  cases x with
  | register id n => exact hx.elim
  | _ => trivial

theorem Deed.IsQuiet.isPlain (hx : x.IsQuiet) : x.IsPlain := by
  cases x <;> trivial

/-- Only a registration brings in what was not registered before. -/
theorem Host.get?_of_perform (hx : x.IsPlain)
    (hn : (h.perform now x).registry.get? id = some n) : h.registry.get? id = some n := by
  have hspared (hs : x.SparesRegistry) : h.registry.get? id = some n := by
    rwa [perform_registry hs] at hn
  cases x with
  | register id' m => exact hx.elim
  | unregister id' =>
    rw [perform, unregister_registry, Registry.get?_erase] at hn
    split at hn
    · cases hn
    · exact hn
  | _ => exact hspared trivial

/-- Only what is there may be started or stopped. -/
theorem Host.KnowsCalled.perform (hk : h.KnowsCalled)
    (hx : ∀ n call, x = .endCall n call .succeeded → call = .start ∨ call = .stop →
      ∃ i, h.instance? n = some i) : (h.perform now x).KnowsCalled := by
  intro n hmem
  have hthere : ∃ i, h.instance? n = some i := by
    by_cases hstart : x = .endCall n .start .succeeded
    · exact hx n .start hstart (.inl rfl)
    by_cases hstop : x = .endCall n .stop .succeeded
    · exact hx n .stop hstop (.inr rfl)
    · exact hk n (hmem.imp (ended_mem_perform hstart).mp (ended_mem_perform hstop).mp)
  rcases hthere with ⟨i, hi⟩
  exact ⟨_, perform_instance?_of_some hi x⟩

theorem Deed.IsPlain.not_ends {call : Call} (hx : x.IsPlain) (heq : x = .endCall n call .succeeded)
    (hcall : call = .start ∨ call = .stop) : False := by
  subst heq
  rcases hx rfl with ⟨hstart, hstop⟩
  exact hcall.elim hstart hstop

theorem Host.Tallied.perform (ht : h.Tallied) (hx : x.IsPlain) : (h.perform now x).Tallied := by
  refine ⟨(perform_later hx.fits).sound ht.sound, ?_, fun {id n i} hn hi => ?_⟩
  · exact ht.known.perform fun n call heq hcall => (hx.not_ends heq hcall).elim
  · have hn₀ := get?_of_perform hx hn
    rcases ht.sound.linked hn₀ with ⟨i₀, hi₀⟩
    rw [perform_instance?_of_some hi₀] at hi
    cases hi
    exact hx.spares.vouches (ht.vouched hn₀ hi₀)

/-- A program of plain deeds keeps the tally. -/
theorem Program.Works.tallied {p : HostProgram α} (hw : p.Works allowed)
    (hplain : ∀ x, allowed x → x.IsPlain) : p.Preserves Host.Tallied := by
  intro t h r u h' ht hends
  rcases hends with ⟨steps, hrun⟩
  refine hw.undisturbed (R := fun a b => a.Tallied → b.Tallied) hrun (fun _ ht => ht)
    (fun hab hbc ht => hbc (hab ht)) (fun h now x hx ht => ?_) ht
  exact ht.perform (hx.elim Deed.IsQuiet.isPlain (hplain x))

theorem quiet_tallied {p : HostProgram α} (hw : p.Works fun _ => False) :
    p.Preserves Host.Tallied :=
  hw.tallied fun _ => False.elim

theorem runHooks_tallied (id : String) (phase : CleanupPhase) :
    (runHooks id phase).Preserves Host.Tallied := by
  have hw : (runHooks id phase).Works Deed.IsHookRun := runHooks_works fun _ => trivial
  apply hw.tallied
  intro x hx
  cases x <;> trivial

theorem noteFailure_tallied {ε : Type} (notice : ε → Notice) (r : Except ε Unit) :
    (noteFailure notice r).Preserves Host.Tallied :=
  quiet_tallied (noteFailure_works notice r)

theorem unregister_tallied (id : String) : (unregister id).Preserves Host.Tallied := by
  have hw : (unregister id).Works (· = .unregister id) := unregister_works rfl
  apply hw.tallied
  rintro x rfl
  trivial

theorem callCleanup_tallied (n : Nat) (removed : Bool) :
    (callInstance n (.cleanup removed)).Preserves Host.Tallied := by
  have hw : (callInstance n (.cleanup removed)).Works
      (Deed.IsCall (fun _ => True) (· = .cleanup removed)) := callInstance_isCall trivial rfl
  apply hw.tallied
  intro x hx
  cases x with
  | beginCall m call => trivial
  | endCall m call ending =>
    obtain rfl : call = .cleanup removed := hx.2
    exact fun _ => ⟨nofun, nofun⟩
  | _ => exact hx.elim

/-! ## Stopping -/

/-- The instance that is registered under the id is off, in a host that tallies. -/
structure Host.Quieted (id : String) (n : Nat) (h : Host) : Prop where
  tallied : h.Tallied
  registered : h.registry.get? id = some n
  off : h.IsOff n

/-- A stop may succeed on what is disabled. -/
theorem Host.Tallied.perform_stop (ht : h.Tallied) (ho : h.IsOff n) :
    (h.perform now (.endCall n .stop .succeeded)).Tallied := by
  rcases ho with ⟨j, hj, hoff⟩
  have hfits : Deed.Fits h (.endCall n .stop .succeeded) := trivial
  refine ⟨(perform_later hfits).sound ht.sound, ?_, fun {id m i} hm hi => ?_⟩
  · apply ht.known.perform
    rintro k call heq -
    cases heq
    exact ⟨j, hj⟩
  · have hm₀ : h.registry.get? id = some m := hm
    rcases ht.sound.linked hm₀ with ⟨i₀, hi₀⟩
    rw [perform_instance?_of_some hi₀] at hi
    cases hi
    have hv := ht.vouched hm₀ hi₀
    by_cases hnm : n = m
    · -- The instance itself: it is stopped now, and it has been disabled before.
      subst hnm
      cases hj.symm.trans hi₀
      have hstopped : (h.perform now (.endCall n .stop .succeeded)).HasStopped n := by
        rw [HasStopped, past_perform_endCall]
        exact List.mem_append_right _ (List.mem_singleton.mpr rfl)
      rcases hv.answered with ⟨ending, hanswered⟩
      refine ⟨⟨ending, mem_past_perform hanswered⟩, ?_, fun he => ?_⟩
      · rw [Deed.effect, if_pos rfl]
        simp [Instance.callEnded, Instance.markStopped, hstopped]
      · rw [Deed.effect, if_pos rfl, Instance.enabled_callEnded, hoff] at he
        cases he
    · have hspares : Deed.Spares m (.endCall n .stop .succeeded) := fun heq => absurd heq hnm
      exact hspares.vouches hv

theorem callInstance_stop_quieted :
    (callInstance n .stop).Preserves (Host.Quieted id n) := by
  intro t h r u h' hq hends
  obtain ⟨-, -, rfl⟩ := callInstance_ends.mp hends
  generalize (h.beginCall t n .stop).1.ending = ending
  -- The call begins with a plain deed, and so it ends unless it succeeds.
  let begun := h.perform t (.beginCall n .stop)
  have hbegun : begun.Tallied := hq.tallied.perform trivial
  have hoff : begun.IsOff n := Host.perform_isOff hq.off nofun
  have hreg : begun.registry = h.registry := Host.perform_registry trivial
  refine ⟨?_, hreg ▸ hq.registered, Host.perform_isOff (x := .endCall n .stop ending) hoff nofun⟩
  show (begun.perform u (.endCall n .stop ending)).Tallied
  by_cases hending : ending = .succeeded
  · rw [hending]
    exact hbegun.perform_stop hoff
  · exact hbegun.perform fun heq => absurd heq hending

theorem stopWithRetry_quieted : (stopWithRetry id n).Preserves (Host.Quieted id n) := by
  have hnote (notices : List Notice) : (noteAll notices).Preserves (Host.Quieted id n) := by
    intro t h r u h' hq hends
    obtain ⟨-, -, rfl⟩ := ends_change.mp hends
    have hnoted : (h.perform t (.notice notices)).Tallied := hq.tallied.perform trivial
    exact ⟨hnoted, hq.registered, hq.off⟩
  have hfirst : (stopRegistered id).Preserves (Host.Quieted id n) := by
    intro t h r u h' hq hends
    have hends := ends_ask_bind.mp hends
    rw [hq.registered] at hends
    refine preserves_bind callInstance_stop_quieted (fun answer => ?_) hq hends
    cases answer <;> exact preserves_done _
  apply preserves_bind hfirst
  intro r
  cases r with
  | ok _ => exact preserves_done _
  | error first =>
    apply preserves_bind (hnote _)
    intro _
    apply preserves_bind callInstance_stop_quieted
    intro answer
    cases answer <;> exact preserves_done _

/-- A drain of what is registered keeps the tally. -/
theorem drain_tallied {timeoutMs : Nat} {r : Except String (Except LifecycleError Unit)}
    (ht : h.Tallied) (hn : h.registry.get? id = some n)
    (hends : (drain n timeoutMs).Ends t h r u h') : h'.Tallied := by
  rcases ht.sound.reports hn with ⟨i, hi, rfl⟩
  have hends := ends_ask_bind.mp hends
  rw [hi] at hends
  have hends : (drainInstance i n timeoutMs).Ends t h r u h' := hends
  rw [drainInstance_eq] at hends
  have hquiet : (quiet i n timeoutMs).Preserves Host.Tallied := by
    apply (quiet_works i n timeoutMs).tallied
    intro x hx
    cases x with
    | endCall m call ending =>
      rcases hx.2 with rfl | rfl <;> exact fun _ => ⟨nofun, nofun⟩
    | switch m enabled => exact hx.2
    | register => exact hx.elim
    | _ => trivial
  rcases ends_bind.mp hends with ⟨a, t₁, h₁, hfirst, hrest⟩ | ⟨message, -, hfirst⟩
  · rcases quiet_ends_isOff hi hfirst with ⟨hoff, hreg⟩
    exact (stopWithRetry_quieted ⟨hquiet ht hfirst, hreg ▸ hn, hoff⟩ hrest).tallied
  · exact hquiet ht hfirst

theorem drain_bind_tallied {timeoutMs : Nat} {k : Except LifecycleError Unit → HostProgram α}
    {r : Except String α} (hk : ∀ r, (k r).Preserves Host.Tallied) (ht : h.Tallied)
    (hn : h.registry.get? id = some n) (hends : ((drain n timeoutMs).bind k).Ends t h r u h') :
    h'.Tallied := by
  rcases ends_bind.mp hends with ⟨a, t₁, h₁, hdrain, hrest⟩ | ⟨message, -, hdrain⟩
  · exact hk a (drain_tallied ht hn hdrain) hrest
  · exact drain_tallied ht hn hdrain

/-! ## Starting -/

/-- An instance that has just been built and reports the id: nothing is known of it. -/
structure Host.IsUnstarted (h : Host) (id : String) (n : Nat) : Prop where
  reports : ∃ i : Instance, h.instance? n = some i ∧ i.id = id ∧ i.started = false
  notStarted : ¬ h.HasStarted n
  notStopped : ¬ h.HasStopped n

/-- What is built is unstarted: its number is a new one, so the history cannot tell of it. -/
theorem Host.Tallied.build_isUnstarted (ht : h.Tallied) (hb : (h.build t d).1 = .ok (.ok n)) :
    (h.build t d).2.IsUnstarted d.id n := by
  have hstarted : (h.perform t (.build d)).HasStarted n ↔ h.HasStarted n := ended_mem_perform nofun
  have hstopped : (h.perform t (.build d)).HasStopped n ↔ h.HasStopped n := ended_mem_perform nofun
  have hmakes := h.build_makes t d
  have hperform : h.perform t (.build d) = (h.build t d).2 := rfl
  rw [hperform] at hstarted hstopped
  generalize h.build t d = built at hb hstarted hstopped hmakes
  cases hmakes with
  | brokeDown => cases hb
  | failed => cases hb
  | @made b context h₁ hbuilt hid =>
    cases hb
    have hnone : ¬ ∃ i, h.instance? h.nextInstance = some i := by
      rintro ⟨i, hi⟩
      exact Nat.lt_irrefl _ (instance?_lt hi)
    refine ⟨⟨_, hbuilt.instance?_next, hid, rfl⟩, fun hmem => ?_, fun hmem => ?_⟩
    · exact hnone (ht.known _ (.inl (hstarted.mp hmem)))
    · exact hnone (ht.known _ (.inr (hstopped.mp hmem)))

theorem build_bind_tallied {k : Except HostError Nat → HostProgram α}
    (hfailed : ∀ failure, (k (.error failure)).Preserves Host.Tallied)
    (hmade : ∀ {n t h r u h'}, h.Tallied → h.IsUnstarted d.id n → (k (.ok n)).Ends t h r u h' →
      h'.Tallied) :
    ((build d).bind k).Preserves Host.Tallied := by
  intro t h r u h' ht hends
  have hends : ((ofOutcome (h.build t d).1).bind k).Ends t (h.build t d).2 r u h' :=
    ends_act.mp hends
  have hplain : Deed.IsPlain (.build d) := trivial
  have ht₁ : (h.build t d).2.Tallied := ht.perform hplain
  rcases hb : (h.build t d).1 with message | failure | n <;> rw [hb] at hends
  · obtain ⟨-, -, rfl⟩ := ends_breakDown.mp hends
    exact ht₁
  · exact hfailed failure ht₁ hends
  · exact hmade ht₁ (ht.build_isUnstarted hb) hends

/-- The host after an instance has been registered and start was called on it and ended. -/
def Host.startEnded (h : Host) (t u : Nat) (id : String) (n : Nat) (ending : Ending) : Host :=
  ((h.perform t (.register id n)).perform t (.beginCall n .start)).perform u
    (.endCall n .start ending)

/-- Once the start has come to an end, the history vouches for the new instance. -/
theorem Host.IsUnstarted.vouches {ending : Ending} (hn : h.IsUnstarted id n)
    (hi : (h.startEnded t u id n ending).instance? n = some i) :
    (h.startEnded t u id n ending).Vouches n i := by
  rcases hn.reports with ⟨j, hj, -, hunstarted⟩
  let called := (h.perform t (.register id n)).perform t (.beginCall n .start)
  have hcalled {call : Call} : .ended n call .succeeded ∈ called.past →
      .ended n call .succeeded ∈ h.past := by
    intro hmem
    exact (ended_mem_perform (by nofun)).mp ((ended_mem_perform (by nofun)).mp hmem)
  have hpast : (h.startEnded t u id n ending).past = called.past ++ [.ended n .start ending] :=
    past_perform_endCall
  have hstarted : (h.startEnded t u id n ending).HasStarted n ↔ ending = .succeeded := by
    rw [HasStarted, hpast, List.mem_append, or_iff_right fun hmem => hn.notStarted (hcalled hmem)]
    simp [eq_comm]
  have hstopped : ¬ (h.startEnded t u id n ending).HasStopped n := by
    intro hmem
    rw [HasStopped, hpast, List.mem_append] at hmem
    rcases hmem with hmem | hmem
    · exact hn.notStopped (hcalled hmem)
    · cases List.mem_singleton.mp hmem
  have hmade : i = (j.callBegun .start).callEnded .start ending := by
    have hbegun : called.instance? n = some (j.callBegun .start) := by
      rw [perform_instance?_of_some (perform_instance?_of_some hj _), Deed.effect, if_pos rfl]
      rfl
    have hlast : (h.startEnded t u id n ending).instance? n =
        some ((Deed.endCall n .start ending).effect u n (j.callBegun .start)) :=
      perform_instance?_of_some hbegun _
    rw [Deed.effect, if_pos rfl] at hlast
    exact Option.some_inj.mp (hi.symm.trans hlast)
  refine ⟨⟨ending, ?_⟩, ?_, fun _ => hstopped⟩
  · rw [hpast]
    exact List.mem_append_right _ (List.mem_singleton.mpr rfl)
  · rw [hstarted, hmade]
    cases ending <;> simp [Instance.callEnded, Instance.markStarted, Instance.callBegun, hstopped,
      hunstarted]

theorem Host.Tallied.startEnded {ending : Ending} (ht : h.Tallied) (hn : h.IsUnstarted id n)
    (hid : isBlankText id = false) : (h.startEnded t u id n ending).Tallied := by
  rcases hn.reports with ⟨j, hj, hjid, -⟩
  have hfits : Deed.Fits h (.register id n) := ⟨j, hj, hjid⟩
  let registered := h.perform t (.register id n)
  let called := registered.perform t (.beginCall n .start)
  have hsound : called.Sound :=
    (perform_later (d := .beginCall n .start) trivial).sound ((perform_later hfits).sound ht.sound)
  have hj₁ : registered.instance? n = some j := perform_instance?_of_some hj _
  have hknown : called.KnowsCalled := (ht.known.perform (by nofun)).perform (by nofun)
  refine ⟨(perform_later (d := .endCall n .start ending) trivial).sound hsound, ?_, ?_⟩
  · apply hknown.perform
    rintro k call heq -
    cases heq
    exact ⟨_, perform_instance?_of_some hj₁ _⟩
  · intro id' m i hm hi
    have hreg : (h.startEnded t u id n ending).registry = registered.registry := by
      rw [Host.startEnded, perform_registry (by trivial), perform_registry (by trivial)]
    have hget : registered.registry.get? id' =
        if id' = id then some n else h.registry.get? id' := by
      show (h.register t id n).2.registry.get? id' = _
      rw [register_not_blank hid]
      exact Registry.get?_insert
    rw [hreg, hget] at hm
    split at hm
    · cases hm
      exact hn.vouches hi
    next hne =>
      -- Another instance is registered there, and none of the three deeds is about it.
      rcases ht.sound.reports hm with ⟨i₀, hi₀, hid₀⟩
      have hnm : n ≠ m := by
        rintro rfl
        cases hj.symm.trans hi₀
        exact hne (hid₀.symm.trans hjid)
      have hspares : Deed.Spares m (.endCall n .start ending) := fun heq => absurd heq hnm
      have hv₁ : registered.Vouches m i₀ :=
        Deed.Spares.vouches (x := .register id n) trivial (ht.vouched hm hi₀)
      have hv₂ : called.Vouches m ((Deed.beginCall n .start).effect t m i₀) :=
        Deed.Spares.vouches (x := .beginCall n .start) trivial hv₁
      have hi₁ : registered.instance? m = some i₀ := perform_instance?_of_some hi₀ _
      have hi₂ : called.instance? m = some ((Deed.beginCall n .start).effect t m i₀) :=
        perform_instance?_of_some hi₁ _
      have hi₃ : (h.startEnded t u id n ending).instance? m =
          some ((Deed.endCall n .start ending).effect u m _) := perform_instance?_of_some hi₂ _
      cases hi.symm.trans hi₃
      exact hspares.vouches hv₂

theorem registerAndStart_bind_tallied {k : Except LifecycleError Unit → HostProgram α}
    {r : Except String α} (hk : ∀ r, (k r).Preserves Host.Tallied) (ht : h.Tallied)
    (hn : h.IsUnstarted id n) (hends : ((registerAndStart id n).bind k).Ends t h r u h') :
    h'.Tallied := by
  suffices hstart : ∀ {r u h'}, (registerAndStart id n).Ends t h r u h' → h'.Tallied by
    rcases ends_bind.mp hends with ⟨a, t₁, h₁, hfirst, hrest⟩ | ⟨message, -, hfirst⟩
    · exact hk a (hstart hfirst) hrest
    · exact hstart hfirst
  intro r u h' hends
  have hends := ends_act.mp hends
  cases hid : isBlankText id with
  | true =>
    simp only [Host.register_blank hid] at hends
    obtain ⟨-, -, rfl⟩ := ends_done.mp hends
    exact ht
  | false =>
    rcases hn.reports with ⟨j, hj, -⟩
    -- What is started is what has just been registered.
    let registered := h.perform t (.register id n)
    have hregister : h.register t id n = (.ok (), registered) := by
      show _ = (_, (h.register t id n).2)
      rw [Host.register_not_blank hid]
    have hget : registered.registry.get? id = some n := by
      show (h.register t id n).2.registry.get? id = _
      rw [Host.register_not_blank hid]
      exact Registry.get?_insert.trans (if_pos rfl)
    simp only [hregister] at hends
    have hends : (startRegistered id).Ends t registered r u h' := hends
    have hends := ends_ask_bind.mp hends
    rw [hget] at hends
    have hcalled : ∀ {r u h'}, (callInstance n .start).Ends t registered r u h' → h'.Tallied := by
      intro r u h' hcall
      obtain ⟨-, -, rfl⟩ := callInstance_ends.mp hcall
      exact ht.startEnded hn hid
    rcases ends_bind.mp hends with ⟨a, t₁, h₁, hfirst, hrest⟩ | ⟨message, -, hfirst⟩
    · cases a <;> exact preserves_done _ (hcalled hfirst) hrest
    · exact hcalled hfirst

/-! ## Events -/

theorem enable_tallied (d : Descriptor) : (enable d).Preserves Host.Tallied := by
  unfold enable
  split
  · exact preserves_done _
  · apply build_bind_tallied
    · intro failure
      exact preserves_done _
    · intro n t h r u h' ht hn hends
      exact registerAndStart_bind_tallied (fun _ => preserves_done _) ht hn hends

theorem disable_tallied (d : Descriptor) : (disable d).Preserves Host.Tallied := by
  intro t h r u h' ht hends
  have hends := ends_ask_bind.mp hends
  cases hn : h.registry.get? d.id with
  | none =>
    rw [hn] at hends
    exact preserves_done _ ht hends
  | some n =>
    rw [hn] at hends
    have hends := ends_ask_bind.mp hends
    exact drain_bind_tallied (fun _ => preserves_done _) ht hn hends

theorem rollBack_tallied (id : String) (old : Descriptor) (e : HostError) :
    (rollBack id old e).Preserves Host.Tallied := by
  apply preserves_bind (quiet_tallied (noteAll_works _))
  intro _
  apply preserves_bind (enable_tallied old)
  intro result
  apply preserves_bind (noteFailure_tallied _ result)
  intro _
  apply preserves_bind (runHooks_tallied _ _)
  intro _
  exact preserves_done _

theorem replaceWith_tallied (d old : Descriptor) : (replaceWith d old).Preserves Host.Tallied := by
  apply build_bind_tallied
  · intro failure
    exact rollBack_tallied d.id old failure
  · intro n t h r u h' ht hn hends
    refine registerAndStart_bind_tallied (fun result => ?_) ht hn hends
    cases result <;> exact preserves_bind (runHooks_tallied _ _) fun _ => preserves_done _

theorem replaceTaken_tallied (d : Descriptor) (n : Nat) (old : Descriptor) (settleDelayMs : Nat) :
    (replaceTaken d n old settleDelayMs).Preserves Host.Tallied := by
  apply preserves_bind (callCleanup_tallied n false)
  intro cleaned
  apply preserves_bind (noteFailure_tallied _ cleaned)
  intro _
  apply preserves_bind (quiet_tallied (works_sleep _))
  intro _
  exact replaceWith_tallied d old

theorem updateRegistered_tallied {old : Instance} {r : Except String (Except HostError Unit)}
    (ht : h.Tallied) (hn : h.registry.get? d.id = some n)
    (hends : (updateRegistered d n old).Ends t h r u h') : h'.Tallied := by
  have hends := ends_act.mp hends
  have hends := ends_ask_bind.mp hends
  let notices := versionNotices d.id old.descriptor.version d.version
  have hnoted : (h.perform t (.notice notices)).Tallied := ht.perform trivial
  apply drain_bind_tallied _ hnoted hn hends
  intro drained
  cases drained with
  | error e => exact preserves_bind (runHooks_tallied _ _) fun _ => preserves_done _
  | ok _ =>
    apply preserves_bind (unregister_tallied d.id)
    intro _
    exact replaceTaken_tallied d n old.descriptor _

theorem update_tallied (d : Descriptor) : (update d).Preserves Host.Tallied := by
  intro t h r u h' ht hends
  have hends := ends_ask_bind.mp hends
  cases hn : h.registry.get? d.id with
  | none =>
    rw [hn] at hends
    exact enable_tallied d ht hends
  | some n =>
    rcases ht.sound.linked hn with ⟨old, hi⟩
    simp only [hn, hi, Option.bind_some, Option.map_some] at hends
    exact updateRegistered_tallied ht hn hends

theorem remove_tallied (d : Descriptor) : (remove d).Preserves Host.Tallied := by
  intro t h r u h' ht hends
  have hends := ends_ask_bind.mp hends
  cases hn : h.registry.get? d.id with
  | none =>
    rw [hn] at hends
    exact preserves_done _ ht hends
  | some n =>
    rw [hn] at hends
    have hends := ends_ask_bind.mp hends
    apply drain_bind_tallied _ ht hn hends
    intro drained
    apply preserves_bind (noteFailure_tallied _ drained)
    intro _
    apply preserves_bind (unregister_tallied d.id)
    intro _
    apply preserves_bind (callCleanup_tallied n true)
    intro cleaned
    apply preserves_bind (noteFailure_tallied _ cleaned)
    intro _
    apply preserves_bind (runHooks_tallied _ _)
    intro _
    exact preserves_done _

/-- Handling an event keeps the tally, however it ends. -/
theorem handle_tallied (e : Event) : (handle e).Preserves Host.Tallied := by
  unfold handle
  cases e.change with
  | enable => exact enable_tallied e.descriptor
  | disable => exact disable_tallied e.descriptor
  | update => exact update_tallied e.descriptor
  | remove => exact remove_tallied e.descriptor

end ExtensionHost
