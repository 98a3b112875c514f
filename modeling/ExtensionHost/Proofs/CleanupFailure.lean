import ExtensionHost.Proofs.Removal
import ExtensionHost.Proofs.Unfailing

/-!
# Cleanup that fails

A cleanup hook that fails, or an instance that fails to clean up, changes nothing but what is
noticed. The programs of an event are followed on a host and on the one where no cleanup fails:
they come to the same, the same is registered, and the same has been called in the same order.
Calls may take longer on the one than on the other, so when an instance was disabled may differ.
-/

namespace ExtensionHost

open Program

variable {α β : Type} {t u n now : Nat} {h h' k k' : Host} {d : Descriptor} {i j : Instance}
variable {id : String} {w w' : Happening}

/-! ## Hosts next to each other -/

/-- Whatever the cleanup of an instance answers, it returns. -/
def Conduct.CleansUp (c : Conduct) : Prop :=
  ∀ removed earlier, (c.respond (.cleanup removed) earlier).IsResult

/-- Whatever a hook or the cleanup of an instance answers, of one that is there or that is yet
to be made, it returns. -/
structure Host.CleansUp (h : Host) : Prop where
  hooks : ∀ hook ∈ h.hooks, ∀ id phase, (hook.respond id phase).IsResult
  builds : h.setup.Builds fun _ b => b.conduct.CleansUp
  instances : ∀ {n i}, h.instance? n = some i → i.conduct.CleansUp

theorem Host.CleansUp.of_same (hc : h.CleansUp) (hsetup : h'.setup = h.setup)
    (hinstances : h'.instances = h.instances) : h'.CleansUp := by
  have hhooks : h'.hooks = h.hooks := congrArg Setup.hooks hsetup
  refine ⟨hhooks ▸ hc.hooks, hsetup ▸ hc.builds, fun hi => ?_⟩
  rw [instance?, hinstances] at hi
  exact hc.instances hi

/-- `h.Mirrors k` says that `k` is as `h` would be if no cleanup had failed on it and none would,
but for when instances were disabled. -/
structure Host.Mirrors (h k : Host) : Prop where
  setup : k.setup = h.setup.unfailing
  registry : k.registry = h.registry.unfailing
  count : k.nextInstance = h.nextInstance
  instances : ∀ n, (k.instance? n).map Instance.shown = (h.instance? n).map (·.unfailing.shown)
  past : k.past = h.past.map Happening.unfailing
  cleansUp : h.CleansUp

/-- Every host has one next to it where no cleanup fails. -/
theorem Host.CleansUp.mirrors (hc : h.CleansUp) : h.Mirrors h.unfailing where
  setup := rfl
  registry := rfl
  count := List.length_map _
  instances n := by
    simp only [Host.instance?, Host.unfailing, List.getElem?_map, Option.map_map]
    rfl
  past := by simp [Host.past, Host.unfailing]
  cleansUp := hc

/-- What is built cleans up, too. -/
theorem Host.CleansUp.build (hc : h.CleansUp) : (h.build now d).2.CleansUp := by
  have hsetup : (h.build now d).2.setup = h.setup := (h.perform_grew now (.build d)).setup
  have hhooks : (h.build now d).2.hooks = h.hooks := congrArg Setup.hooks hsetup
  refine ⟨hhooks ▸ hc.hooks, hsetup ▸ hc.builds, fun hi => ?_⟩
  rcases Host.build_stems hc.builds hi with hi | ⟨-, b, context, hmake, -, -, hb⟩
  · exact hc.instances hi
  · rw [show Instance.conduct _ = b.conduct from congrArg (·.2.2) hmake]
    rcases hb with hb | rfl
    · exact hb
    · exact fun _ _ => nofun

/-! ## Instances next to each other -/

theorem Instance.unfailing_callEnded (call : Call) (ending : Ending) :
    (i.callEnded call ending).unfailing = i.unfailing.callEnded call ending := by
  cases call <;> cases ending <;> try rfl
  show Instance.unfailing (if i.conduct.closesConnections then _ else _) =
    if i.conduct.closesConnections then _ else _
  split <;> rfl

/-- Only the answer of a cleanup may be another one. -/
theorem Instance.unfailing_response {call : Call} (hcall : ∀ removed, call ≠ .cleanup removed) :
    i.unfailing.response call = i.response call := by
  cases call with
  | cleanup removed => exact absurd rfl (hcall removed)
  | _ => rfl

/-- The end of a cleanup changes nothing of an instance, however it ends. -/
theorem Instance.callEnded_cleanup (removed : Bool) (ending : Ending) :
    i.callEnded (.cleanup removed) ending = i := by
  cases ending <;> rfl

/-- The marks of a host are the same where no cleanup fails. -/
theorem Host.Mirrors.marks (hm : h.Mirrors k) : k.marks = h.marks := by
  have hmark (w : Happening) : w.unfailing.isMark = w.isMark := by
    cases w with
    | ended n call ending => cases call <;> rfl
    | _ => rfl
  have hsame (w : Happening) (hw : w.isMark = true) : w.unfailing = w := by
    cases w with
    | ended => cases hw
    | _ => rfl
  rw [Host.marks, hm.past, Host.marks]
  show (h.past.map Happening.unfailing).filter Happening.isMark = h.past.filter Happening.isMark
  rw [List.filter_map]
  have hcomp : Happening.isMark ∘ Happening.unfailing = Happening.isMark := funext hmark
  rw [hcomp]
  exact (List.map_congr_left fun w hw => hsame w (List.mem_filter.mp hw).2).trans (List.map_id _)

namespace Host.Mirrors

theorem found (hm : h.Mirrors k) (id : String) : k.registry.get? id = h.registry.get? id := by
  rw [hm.registry, Registry.get?_unfailing]

/-- An instance is there on both hosts or on neither. -/
theorem instance_cases (hm : h.Mirrors k) (n : Nat) :
    (h.instance? n = none ∧ k.instance? n = none) ∨
      ∃ i j, h.instance? n = some i ∧ k.instance? n = some j ∧ i.unfailing.Like j := by
  have hsame := hm.instances n
  cases hi : h.instance? n with
  | none =>
    rw [hi] at hsame
    exact .inl ⟨rfl, Option.map_eq_none_iff.mp hsame⟩
  | some i =>
    rw [hi] at hsame
    obtain ⟨j, hj, hlike⟩ := Option.map_eq_some_iff.mp hsame
    exact .inr ⟨i, j, rfl, hj, hlike.symm⟩

theorem hooks (hm : h.Mirrors k) : k.hooks = h.hooks.map CleanupHook.unfailing :=
  (congrArg Setup.hooks hm.setup :)

theorem policy (hm : h.Mirrors k) : k.settings.policy = h.settings.policy :=
  (congrArg (·.settings.policy) hm.setup :)

theorem gatewayFor? (hm : h.Mirrors k) (id : String) : k.gatewayFor? id = h.gatewayFor? id := by
  have hgateways : k.gateways = h.gateways := congrArg Setup.gateways hm.setup
  rw [Host.gatewayFor?, hgateways, Host.gatewayFor?]

/-- The same constructors have been invoked. -/
theorem invocations (hm : h.Mirrors k) (id : String) : k.invocations id = h.invocations id := by
  have hsame (w : Happening) : w.unfailing.invocationFor? id = w.invocationFor? id := by
    cases w with
    | ended n call ending => cases call <;> rfl
    | _ => rfl
  rw [invocations_eq, invocations_eq, hm.past, List.filterMap_map]
  exact congrArg (fun f => (h.past.filterMap f).reverse) (funext hsame)

/-! ### Steps -/

/-- What may be noticed on either host does not matter. -/
theorem aside (hm : h.Mirrors k) (hn : h.Noticed h') (hn' : k.Noticed k') : h'.Mirrors k' where
  setup := by rw [hn'.setup, hn.setup, hm.setup]
  registry := by rw [hn'.registry, hn.registry, hm.registry]
  count := by rw [nextInstance, hn'.instances, nextInstance, hn.instances]; exact hm.count
  instances n := by rw [instance?, hn'.instances, instance?, hn.instances]; exact hm.instances n
  past := by rw [hn'.past, hn.past, hm.past]
  cleansUp := hm.cleansUp.of_same hn.setup hn.instances

theorem notice (hm : h.Mirrors k) (l l' : List Notice) : (h.notice l).Mirrors (k.notice l') :=
  hm.aside ⟨rfl, rfl, rfl, rfl⟩ ⟨rfl, rfl, rfl, rfl⟩

theorem happen (hm : h.Mirrors k) (hw : w' = w.unfailing) :
    (h.happen t w).Mirrors (k.happen u w') :=
  ⟨hm.setup, hm.registry, hm.count, hm.instances, by simp [hm.past, hw],
    hm.cleansUp.of_same rfl rfl⟩

theorem changeRegistry {r s : Registry} (hm : h.Mirrors k) (hs : s = r.unfailing) :
    Mirrors { h with registry := r } { k with registry := s } :=
  ⟨hm.setup, hs, hm.count, hm.instances, hm.past, hm.cleansUp.of_same rfl rfl⟩

theorem modifyInstance {f g : Instance → Instance} (hm : h.Mirrors k)
    (hlike : ∀ {i j}, i.unfailing.Like j → (f i).unfailing.Like (g j))
    (hf : ∀ i, (f i).make = i.make) : (h.modifyInstance n f).Mirrors (k.modifyInstance n g) where
  setup := hm.setup
  registry := hm.registry
  count := by
    simp only [nextInstance, Host.modifyInstance, List.length_modify]
    exact hm.count
  instances m := by
    rw [instance?_modifyInstance, instance?_modifyInstance]
    split
    · rcases hm.instance_cases m with ⟨hi, hj⟩ | ⟨i, j, hi, hj, hij⟩
      · rw [hi, hj]
        rfl
      · rw [hi, hj]
        exact congrArg some (hlike hij).symm
    · exact hm.instances m
  past := hm.past
  cleansUp := by
    refine ⟨hm.cleansUp.hooks, hm.cleansUp.builds, fun {m i} hi => ?_⟩
    rw [instance?_modifyInstance] at hi
    split at hi
    · obtain ⟨i₀, hi₀, rfl⟩ := Option.map_eq_some_iff.mp hi
      have hconduct : (f i₀).conduct = i₀.conduct := congrArg (·.2.2) (hf i₀)
      rw [hconduct]
      exact hm.cleansUp.instances hi₀
    · exact hm.cleansUp.instances hi

theorem switch (hm : h.Mirrors k) (n : Nat) (enabled : Bool) :
    (h.switch t n enabled).Mirrors (k.switch u n enabled) := by
  have hmodified := hm.modifyInstance (n := n) (f := (·.setEnabled t enabled))
    (g := (·.setEnabled u enabled)) (fun hij => hij.setEnabled enabled) fun _ => rfl
  exact hmodified.happen rfl

/-- Any call begins on both hosts, and gets the same answer if it is not a cleanup. -/
theorem beginCall (hm : h.Mirrors k) (n : Nat) (call : Call) :
    ((∀ removed, call ≠ .cleanup removed) →
      (k.beginCall u n call).1 = (h.beginCall t n call).1) ∧
      (h.beginCall t n call).2.Mirrors (k.beginCall u n call).2 := by
  rcases hm.instance_cases n with ⟨hi, hj⟩ | ⟨i, j, hi, hj, hij⟩
  · rw [beginCall_none hi, beginCall_none hj]
    exact ⟨fun _ => rfl, hm⟩
  · rw [beginCall_some hi, beginCall_some hj]
    refine ⟨fun hcall => ?_, ?_⟩
    · rw [← hij.response call, Instance.unfailing_response hcall]
    · have hbegun : (h.modifyInstance n (·.callBegun call)).Mirrors
          (k.modifyInstance n (·.callBegun call)) :=
        hm.modifyInstance (fun hij => hij.callBegun call) fun _ => rfl
      exact hbegun.happen rfl

theorem endCall {call : Call} (hm : h.Mirrors k) (n : Nat)
    (hcall : ∀ removed, call ≠ .cleanup removed) (ending : Ending) :
    (h.endCall t n call ending).Mirrors (k.endCall u n call ending) := by
  have hmodified := hm.modifyInstance (n := n) (f := (·.callEnded call ending))
    (g := (·.callEnded call ending))
    (fun hij => by rw [Instance.unfailing_callEnded]; exact hij.callEnded call ending)
    fun i => i.make_callEnded call ending
  refine hmodified.happen ?_
  cases call with
  | cleanup removed => exact absurd rfl (hcall removed)
  | _ => rfl

/-- A cleanup may end in any way where it succeeds on the other host. -/
theorem endCleanup (hm : h.Mirrors k) (n : Nat) (removed : Bool) (ending : Ending) :
    (h.endCall t n (.cleanup removed) ending).Mirrors
      (k.endCall u n (.cleanup removed) .succeeded) := by
  have hmodified := hm.modifyInstance (n := n) (f := (·.callEnded (.cleanup removed) ending))
    (g := (·.callEnded (.cleanup removed) .succeeded))
    (fun hij => by rw [Instance.callEnded_cleanup]; exact hij)
    fun i => i.make_callEnded (.cleanup removed) ending
  exact hmodified.happen rfl

theorem register (hm : h.Mirrors k) (id : String) (n : Nat) :
    (h.register t id n).1 = (k.register u id n).1 ∧
      (h.register t id n).2.Mirrors (k.register u id n).2 := by
  cases hblank : isBlankText id with
  | true =>
    rw [register_blank hblank, register_blank hblank]
    exact ⟨rfl, hm⟩
  | false =>
    rw [register_not_blank hblank, register_not_blank hblank]
    have hcontext : (k.instance? n).bind (·.context) =
        ((h.instance? n).bind (·.context)).map Context.unfailing := by
      rcases hm.instance_cases n with ⟨hi, hj⟩ | ⟨i, j, hi, hj, hij⟩
      · rw [hi, hj]
        rfl
      · rw [hi, hj]
        exact hij.context.symm
    have hinserted : k.registry.insert id n ((k.instance? n).bind (·.context)) =
        (h.registry.insert id n ((h.instance? n).bind (·.context))).unfailing := by
      rw [Registry.unfailing_insert, hcontext, hm.registry]
    exact ⟨rfl, ((hm.changeRegistry hinserted).happen rfl).notice _ _⟩

theorem unregister (hm : h.Mirrors k) (id : String) :
    (h.unregister t id).2.Mirrors (k.unregister u id).2 := by
  have herased : k.registry.erase id = (h.registry.erase id).unfailing := by
    rw [Registry.unfailing_erase, hm.registry]
  have hfound := hm.found id
  cases hn : h.registry.get? id with
  | none =>
    rw [unregister_none hn, unregister_none (hfound.trans hn)]
    exact hm.changeRegistry herased
  | some n =>
    rw [unregister_some hn, unregister_some (hfound.trans hn)]
    exact (hm.changeRegistry herased).happen rfl

/-- The same comes of a build on both hosts. -/
theorem build (hm : h.Mirrors k) (d : Descriptor) :
    (h.build t d).1 = (k.build u d).1 ∧ (h.build t d).2.Mirrors (k.build u d).2 := by
  have hb := h.build_builtBy t d
  have hb' := k.build_builtBy u d
  rw [hm.setup, hm.invocations, Setup.building_unfailing] at hb'
  obtain ⟨made, hbuilt⟩ := (h.build_makes t d).built
  obtain ⟨new, hpast, hnew⟩ := hbuilt.past
  generalize h.setup.building (h.invocations d.id) d = b at hb hb'
  obtain rfl : new = b.invoked := List.append_cancel_left (hpast.symm.trans hb.past)
  have hinvoked : b.invoked.map Happening.unfailing = b.invoked := by
    refine (List.map_congr_left fun w hw => ?_).trans (List.map_id _)
    obtain ⟨invocation, journaled, rfl⟩ := hnew w hw
    rfl
  refine ⟨?_, ?_, ?_, ?_, fun m => ?_, ?_, hm.cleansUp.build⟩
  · rw [hb.result, hb'.result, hm.count]
    rfl
  · rw [hb'.setup, hb.setup, hm.setup]
  · rw [hb'.registry, hb.registry, hm.registry]
  · rw [nextInstance, hb'.instances, nextInstance, hb.instances, List.length_append,
      List.length_append, Building.made_unfailing, List.length_map]
    exact congrArg (· + _) hm.count
  · have hcount : k.instances.length = h.instances.length := hm.count
    rw [instance?, hb'.instances, instance?, hb.instances, List.getElem?_append,
      List.getElem?_append, hcount, Building.made_unfailing]
    split
    · exact hm.instances m
    · rw [List.getElem?_map, Option.map_map]
      rfl
  · rw [hb'.past, hb.past, hm.past, List.map_append, hinvoked]
    rfl

end Host.Mirrors

/-! ## Programs -/

/-- From hosts next to each other both programs come to the same value, or both break down, and
the hosts are next to each other again. -/
def Program.Mirrored (p q : HostProgram α) : Prop :=
  ∀ ⦃h k⦄, h.Mirrors k → Agree p q h k (fun a b h k => a = b ∧ h.Mirrors k) Host.Mirrors

/-- The programs come to any values that way. -/
def Program.Alongside (p : HostProgram α) (q : HostProgram β) : Prop :=
  ∀ ⦃h k⦄, h.Mirrors k → Agree p q h k (fun _ _ => Host.Mirrors) Host.Mirrors

variable {p q : HostProgram α}

theorem mirrored_done (a : α) : Mirrored (done a) (done a) :=
  fun _ _ hm => agree_done ⟨rfl, hm⟩

theorem mirrored_bind {f g : α → HostProgram β} (hp : Mirrored p q)
    (hf : ∀ a, Mirrored (f a) (g a)) : Mirrored (p.bind f) (q.bind g) := by
  intro h k hm
  refine agree_bind (hp hm) fun {a b v v'} hab => ?_
  obtain ⟨rfl, hm⟩ := hab
  exact hf a hm

/-- A question with the same answer on both hosts. -/
theorem mirrored_ask {f : Host → α} (hf : ∀ {h k}, h.Mirrors k → f h = f k) :
    Mirrored (ask f) (ask f) :=
  fun _ _ hm => agree_act fun _ _ => agree_done ⟨hf hm, hm⟩

/-- What comes after questions that may have different answers. -/
theorem ask_bind_mirrored {f f' : Host → β} {g g' : β → HostProgram α}
    (hg : ∀ {h k}, h.Mirrors k →
      Agree (g (f h)) (g' (f' k)) h k (fun a b h k => a = b ∧ h.Mirrors k) Host.Mirrors) :
    Mirrored ((ask f).bind g) ((ask f').bind g') :=
  fun _ _ hm => agree_act fun _ _ => hg hm

/-- A step that keeps hosts next to each other. -/
theorem mirrored_step {step step' : Nat → Host → α × Host}
    (hstep : ∀ {h k} (t u : Nat), h.Mirrors k →
      (step t h).1 = (step' u k).1 ∧ (step t h).2.Mirrors (step' u k).2) :
    Mirrored (act step done) (act step' done) :=
  fun _ _ hm => agree_act fun t u => agree_done (hstep t u hm)

theorem mirrored_sleep (ms : Nat) : Mirrored (sleep ms) (sleep ms) :=
  fun _ _ hm => agree_sleep ⟨rfl, hm⟩

/-- What is only noticed may be different. -/
theorem quiet_mirrored {p q : HostProgram Unit} (hp : p.Works fun _ => False)
    (hq : q.Works fun _ => False) (hcalm : p.IsCalm) (hcalm' : q.IsCalm) : Mirrored p q := by
  intro h k hm t r u v t' r' u' v' hends hends'
  obtain ⟨rfl, hnoticed⟩ := hp.ends_noticed hcalm hends
  obtain ⟨rfl, hnoticed'⟩ := hq.ends_noticed hcalm' hends'
  exact .values ⟨rfl, hm.aside hnoticed hnoticed'⟩

theorem noteAll_mirrored (l l' : List Notice) : Mirrored (noteAll l) (noteAll l') :=
  quiet_mirrored (noteAll_works l) (noteAll_works l') (fun _ => trivial) fun _ => trivial

/-- A failure that is noted may be another one, or none. -/
theorem noteFailure_mirrored {ε : Type} (notice notice' : ε → Notice) (r r' : Except ε Unit) :
    Mirrored (noteFailure notice r) (noteFailure notice' r') :=
  quiet_mirrored (noteFailure_works _ r) (noteFailure_works _ r') (noteFailure_calm _ r)
    (noteFailure_calm _ r')

/-- An answer that is only noted may be another one. -/
theorem noted_bind_mirrored {p q : HostProgram (Except ErrorChain Unit)} {f g : HostProgram α}
    {notice : ErrorChain → Notice} (hp : Alongside p q) (hf : Mirrored f g) :
    Mirrored (p.bind fun r => (noteFailure notice r).bind fun _ => f)
      (q.bind fun r => (noteFailure notice r).bind fun _ => g) :=
  fun _ _ hm => agree_bind (hp hm) fun hm =>
    mirrored_bind (noteFailure_mirrored _ _ _ _) (fun _ => hf) hm

/-! ### Calls -/

theorem result_mirrored (ending : Ending) : Mirrored ending.result ending.result := by
  cases ending with
  | succeeded => exact mirrored_done _
  | failed e => exact mirrored_done _
  | brokeDown message => exact fun _ _ hm => agree_breakDown hm

theorem callInstance_mirrored {call : Call} (hcall : ∀ removed, call ≠ .cleanup removed) (n : Nat) :
    Mirrored (callInstance n call) (callInstance n call) := by
  intro h k hm
  refine agree_act fun t u => ?_
  obtain ⟨hresponse, hbegun⟩ := hm.beginCall (t := t) (u := u) n call
  rw [hresponse hcall]
  have hend : Mirrored
      (changeAt fun now g => g.endCall now n call (h.beginCall t n call).1.ending)
      (changeAt fun now g => g.endCall now n call (h.beginCall t n call).1.ending) :=
    mirrored_step fun _ _ hm => ⟨rfl, hm.endCall n hcall _⟩
  exact mirrored_bind (mirrored_sleep _) (fun _ => mirrored_bind hend fun _ => result_mirrored _)
    hbegun

/-- An instance may clean up or fail to. -/
theorem cleanup_alongside (n : Nat) (removed : Bool) :
    Alongside (callInstance n (.cleanup removed)) (callInstance n (.cleanup removed)) := by
  intro h k hm t r u v t' r' u' v' hends hends'
  obtain ⟨hr, -, rfl⟩ := callInstance_ends.mp hends
  obtain ⟨hr', -, rfl⟩ := callInstance_ends.mp hends'
  obtain ⟨-, hbegun⟩ := hm.beginCall (t := t) (u := t') n (.cleanup removed)
  -- On the second host the cleanup succeeds, and on the first it returns.
  have hsucceeds : (k.beginCall t' n (.cleanup removed)).1 = .immediate := by
    rcases hm.instance_cases n with ⟨-, hj⟩ | ⟨i, j, -, hj, hij⟩
    · rw [Host.beginCall_none hj]
    · rw [Host.beginCall_some hj]
      exact (hij.response _).symm
  have hresult : (h.beginCall t n (.cleanup removed)).1.IsResult := by
    rcases hm.instance_cases n with ⟨hi, -⟩ | ⟨i, j, hi, -⟩
    · rw [Host.beginCall_none hi]
      exact nofun
    · rw [Host.beginCall_some hi]
      exact hm.cleansUp.instances hi removed _
  obtain ⟨a, ha⟩ := Ending.outcome_value hresult
  rw [hr, ha, hr', hsucceeds]
  exact .values (hbegun.endCleanup n removed _)

theorem callGatewayIfAny_mirrored (id : String) (gateway : Option (ProtocolFamily × Gateway))
    (call : GatewayCall) (notice : ErrorChain → Notice) :
    Mirrored (callGatewayIfAny id gateway call notice)
      (callGatewayIfAny id gateway call notice) := by
  cases gateway with
  | none => exact mirrored_done ()
  | some g =>
    have hhappen : Mirrored
        (changeAt fun now h => Host.happen h now (.gatewayCalled g.1 id call))
        (changeAt fun now h => Host.happen h now (.gatewayCalled g.1 id call)) :=
      mirrored_step fun _ _ hm => ⟨rfl, hm.happen rfl⟩
    have hcall : Mirrored (callGateway g.1 g.2 id call) (callGateway g.1 g.2 id call) :=
      mirrored_bind hhappen fun _ => mirrored_bind (mirrored_sleep _) fun _ => result_mirrored _
    exact mirrored_bind hcall fun r => noteFailure_mirrored _ _ r r

/-- Where a hook is run, the one that never fails is. -/
theorem runHook_mirrored {hook : CleanupHook} {phase : CleanupPhase}
    (hresult : (hook.respond id phase).IsResult) :
    Mirrored (runHook id phase hook) (runHook id phase hook.unfailing) := by
  have hhappen : Mirrored
      (changeAt fun now h => Host.happen h now (.hookRun hook.name id phase))
      (changeAt fun now h => Host.happen h now (.hookRun hook.unfailing.name id phase)) :=
    mirrored_step fun _ _ hm => ⟨rfl, hm.happen rfl⟩
  have hwait : Alongside (hook.respond id phase).wait (hook.unfailing.respond id phase).wait := by
    intro h k hm t r u v t' r' u' v' hends hends'
    obtain ⟨hr, -, rfl⟩ := wait_ends.mp hends
    obtain ⟨hr', -, rfl⟩ := wait_ends.mp hends'
    obtain ⟨a, ha⟩ := Ending.outcome_value hresult
    rw [hr, ha, hr']
    exact .values hm
  refine mirrored_bind hhappen fun _ h k hm => ?_
  exact agree_bind (hwait hm) fun hm => noteFailure_mirrored _ _ _ _ hm

theorem runHooks_mirrored (id : String) (phase : CleanupPhase) :
    Mirrored (runHooks id phase) (runHooks id phase) := by
  have heach : ∀ hooks : List CleanupHook,
      (∀ hook ∈ hooks, (hook.respond id phase).IsResult) →
      Mirrored (forEach (runHook id phase) hooks)
        (forEach (runHook id phase) (hooks.map CleanupHook.unfailing)) := by
    intro hooks hall
    induction hooks with
    | nil => exact mirrored_done ()
    | cons hook rest ih =>
      obtain ⟨hhook, hrest⟩ := List.forall_mem_cons.mp hall
      exact mirrored_bind (runHook_mirrored hhook) fun _ => ih hrest
  refine ask_bind_mirrored fun {h k} hm => ?_
  rw [hm.hooks]
  exact heach h.hooks (fun hook hmem => hm.cleansUp.hooks hook hmem id phase) hm

theorem callRegistered_mirrored {call : Call} (hcall : ∀ removed, call ≠ .cleanup removed)
    (id : String) (failed : String → LifecycleError) :
    Mirrored (callRegistered id call failed) (callRegistered id call failed) := by
  refine ask_bind_mirrored fun {h k} hm => ?_
  rw [hm.found id]
  cases h.registry.get? id with
  | none => exact mirrored_done _ hm
  | some n =>
    refine mirrored_bind (callInstance_mirrored hcall n) (fun r => ?_) hm
    cases r <;> exact mirrored_done _

/-! ### Draining -/

theorem callShutdownHook_mirrored {call : Call} (hcall : ∀ removed, call ≠ .cleanup removed)
    (hij : i.unfailing.Like j) (n : Nat) (name : String) :
    Mirrored (callShutdownHook i n call name) (callShutdownHook j n call name) := by
  have hhooks : i.conduct.hasHooks = j.conduct.hasHooks := (congrArg Conduct.hasHooks hij.conduct :)
  unfold callShutdownHook
  rw [hhooks]
  split
  · exact mirrored_bind (callInstance_mirrored hcall n) fun r => noteFailure_mirrored _ _ r r
  · exact mirrored_done ()

/-- How long pending requests are waited for may be different. -/
theorem quieting_mirrored (hij : i.unfailing.Like j) (n timeoutMs : Nat) :
    Mirrored (quiet i n timeoutMs) (quiet j n timeoutMs) := by
  have hid : i.id = j.id := hij.id_eq
  have hswitch : Mirrored (changeAt fun now h => h.switch now n false)
      (changeAt fun now h => h.switch now n false) :=
    mirrored_step fun _ _ hm => ⟨rfl, hm.switch n false⟩
  unfold quiet
  rw [← hid]
  refine mirrored_bind (callShutdownHook_mirrored (by simp) hij n _) fun _ => ?_
  refine mirrored_bind hswitch fun _ => ?_
  refine mirrored_bind (mirrored_ask fun hm => (hm.gatewayFor? i.id).symm) fun gateway => ?_
  refine mirrored_bind (callGatewayIfAny_mirrored _ gateway _ _) fun _ => ?_
  refine mirrored_bind (quiet_mirrored (settle_works i n _) (settle_works j n _)
    (settle_calm i n _) (settle_calm j n _)) fun _ => ?_
  refine mirrored_bind (callShutdownHook_mirrored (by simp) hij n _) fun _ => ?_
  exact callGatewayIfAny_mirrored _ gateway _ _

theorem stopWithRetry_mirrored (id : String) (n : Nat) :
    Mirrored (stopWithRetry id n) (stopWithRetry id n) := by
  refine mirrored_bind (callRegistered_mirrored (by simp) id _) fun r => ?_
  cases r with
  | ok _ => exact mirrored_done _
  | error e =>
    refine mirrored_bind (noteAll_mirrored _ _) fun _ => ?_
    refine mirrored_bind (callInstance_mirrored (by simp) n) fun r => ?_
    cases r <;> exact mirrored_done _

theorem drain_mirrored (n timeoutMs : Nat) : Mirrored (drain n timeoutMs) (drain n timeoutMs) := by
  refine ask_bind_mirrored fun {h k} hm => ?_
  rcases hm.instance_cases n with ⟨hi, hj⟩ | ⟨i, j, hi, hj, hij⟩
  · rw [hi, hj]
    exact mirrored_done _ hm
  · have hid : i.id = j.id := hij.id_eq
    simp only [hi, hj, drainInstance_eq, ← hid]
    exact mirrored_bind (quieting_mirrored hij n timeoutMs)
      (fun _ => stopWithRetry_mirrored i.id n) hm

/-! ### The four changes -/

theorem build_mirrored (d : Descriptor) : Mirrored (build d) (build d) := by
  refine fun h k hm => agree_act fun t u => ?_
  obtain ⟨hsame, hbuilt⟩ := hm.build (t := t) (u := u) d
  rw [hsame]
  cases (k.build u d).1 with
  | error message => exact agree_breakDown hbuilt
  | ok result => exact agree_done ⟨rfl, hbuilt⟩

theorem registerAndStart_mirrored (id : String) (n : Nat) :
    Mirrored (registerAndStart id n) (registerAndStart id n) := by
  have hregister : Mirrored (register id n) (register id n) :=
    mirrored_step fun _ _ hm => hm.register id n
  refine mirrored_bind hregister fun r => ?_
  cases r with
  | error e => exact mirrored_done _
  | ok _ => exact callRegistered_mirrored (by simp) id _

theorem enable_mirrored (d : Descriptor) : Mirrored (enable d) (enable d) := by
  unfold enable
  split
  · exact mirrored_done _
  · refine mirrored_bind (build_mirrored d) fun r => ?_
    cases r with
    | error e => exact mirrored_done _
    | ok n => exact mirrored_bind (registerAndStart_mirrored d.id n) fun _ => mirrored_done _

theorem disable_mirrored (d : Descriptor) : Mirrored (disable d) (disable d) := by
  refine mirrored_bind (mirrored_ask fun hm => (hm.found d.id).symm) fun found => ?_
  cases found with
  | none => exact mirrored_done _
  | some n =>
    refine mirrored_bind (mirrored_ask fun hm => ?_) fun timeoutMs => ?_
    · rw [hm.policy]
    · exact mirrored_bind (drain_mirrored n timeoutMs) fun _ => mirrored_done _

theorem rollBack_mirrored (id : String) (old : Descriptor) (e : HostError) :
    Mirrored (rollBack id old e) (rollBack id old e) := by
  refine mirrored_bind (noteAll_mirrored _ _) fun _ => ?_
  refine mirrored_bind (enable_mirrored old) fun r => ?_
  refine mirrored_bind (noteFailure_mirrored _ _ r r) fun _ => ?_
  exact mirrored_bind (runHooks_mirrored id _) fun _ => mirrored_done _

theorem replaceWith_mirrored (d old : Descriptor) :
    Mirrored (replaceWith d old) (replaceWith d old) := by
  refine mirrored_bind (build_mirrored d) fun r => ?_
  cases r with
  | error e => exact rollBack_mirrored d.id old e
  | ok n =>
    refine mirrored_bind (registerAndStart_mirrored d.id n) fun r => ?_
    cases r <;> exact mirrored_bind (runHooks_mirrored d.id _) fun _ => mirrored_done _

theorem unregister_mirrored (id : String) : Mirrored (unregister id) (unregister id) :=
  mirrored_step fun _ _ hm => ⟨by simp only [Host.unregister, hm.found id], hm.unregister id⟩

theorem updateRegistered_mirrored (d : Descriptor) (n : Nat) (hij : i.unfailing.Like j) :
    Mirrored (updateRegistered d n i) (updateRegistered d n j) := by
  have hold : i.descriptor = j.descriptor := hij.descriptor
  unfold updateRegistered
  rw [← hold]
  refine mirrored_bind (noteAll_mirrored _ _) fun _ => ?_
  refine mirrored_bind (mirrored_ask fun hm => hm.policy.symm) fun policy => ?_
  refine mirrored_bind (drain_mirrored n _) fun r => ?_
  cases r with
  | error e => exact mirrored_bind (runHooks_mirrored d.id _) fun _ => mirrored_done _
  | ok _ =>
    refine mirrored_bind (unregister_mirrored d.id) fun _ => ?_
    refine noted_bind_mirrored (cleanup_alongside n false) ?_
    exact mirrored_bind (mirrored_sleep _) fun _ => replaceWith_mirrored d _

theorem update_mirrored (d : Descriptor) : Mirrored (update d) (update d) := by
  refine ask_bind_mirrored fun {h k} hm => ?_
  rw [hm.found d.id]
  cases h.registry.get? d.id with
  | none => exact enable_mirrored d hm
  | some n =>
    rcases hm.instance_cases n with ⟨hi, hj⟩ | ⟨i, j, hi, hj, hij⟩
    · simp only [Option.bind_some, hi, hj, Option.map_none]
      exact enable_mirrored d hm
    · simp only [Option.bind_some, hi, hj, Option.map_some]
      exact updateRegistered_mirrored d n hij hm

theorem remove_mirrored (d : Descriptor) : Mirrored (remove d) (remove d) := by
  refine mirrored_bind (mirrored_ask fun hm => (hm.found d.id).symm) fun found => ?_
  cases found with
  | none => exact mirrored_done _
  | some n =>
    refine mirrored_bind (mirrored_ask fun hm => ?_) fun timeoutMs => ?_
    · rw [hm.policy]
    · refine mirrored_bind (drain_mirrored n timeoutMs) fun r => ?_
      refine mirrored_bind (noteFailure_mirrored _ _ r r) fun _ => ?_
      refine mirrored_bind (unregister_mirrored d.id) fun _ => ?_
      refine noted_bind_mirrored (cleanup_alongside n true) ?_
      exact mirrored_bind (runHooks_mirrored d.id _) fun _ => mirrored_done _

/-- An event comes to the same where no cleanup fails. -/
theorem handle_mirrored (e : Event) : Mirrored (handle e) (handle e) := by
  unfold handle
  split
  · exact enable_mirrored _
  · exact disable_mirrored _
  · exact update_mirrored _
  · exact remove_mirrored _

end ExtensionHost
