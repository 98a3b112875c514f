import ExtensionHost.Proofs.Alike

/-!
# Programs on alike hosts

Every program of an event does the same on hosts that are alike for the id of the event. So
what handling an event comes to depends on nothing but what is registered under its id and
what the host was set up with.
-/

namespace ExtensionHost

open Program

variable {α β : Type} {t u : Nat} {h h' k k' : Host} {n m : Nat} {i j : Instance}
variable {d : Descriptor} {id : String} {c : TwoRuns} {ns : List (Nat × Nat)} {w : Happening}

/-! ## Programs -/

/-- From alike hosts both programs come to the same, or both break down, and come to alike
hosts. -/
def Matches (c : TwoRuns) (ns : List (Nat × Nat)) (p q : HostProgram α) : Prop :=
  ∀ ⦃h k⦄, Alike c ns h k → Agree p q h k (fun a b h k => a = b ∧ Alike c ns h k) (Alike c [])

variable {p q : HostProgram α}

theorem matches_done (a : α) : Matches c ns (done a) (done a) :=
  fun _ _ ha => agree_done ⟨rfl, ha⟩

theorem matches_bind {f g : α → HostProgram β} (hp : Matches c ns p q)
    (hf : ∀ a, Matches c ns (f a) (g a)) : Matches c ns (p.bind f) (q.bind g) := by
  intro h k ha
  refine agree_bind (hp ha) fun {a b v v'} hab => ?_
  obtain ⟨rfl, ha⟩ := hab
  exact hf a ha

/-- A question with the same answer on alike hosts. -/
theorem matches_ask {f : Host → α} (hf : ∀ {h k}, Alike c ns h k → f h = f k) :
    Matches c ns (ask f) (ask f) :=
  fun _ _ ha => agree_act fun _ _ => agree_done ⟨hf ha, ha⟩

/-- What comes after questions that may have different answers. -/
theorem ask_bind_matches {f f' : Host → β} {g g' : β → HostProgram α}
    (hg : ∀ {h k}, Alike c ns h k →
      Agree (g (f h)) (g' (f' k)) h k (fun a b h k => a = b ∧ Alike c ns h k) (Alike c [])) :
    Matches c ns ((ask f).bind g) ((ask f').bind g') :=
  fun _ _ ha => agree_act fun _ _ => hg ha

theorem matches_sleep (ms : Nat) : Matches c ns (sleep ms) (sleep ms) :=
  fun _ _ ha => agree_sleep ⟨rfl, ha⟩

/-- A step of either host that keeps them alike. -/
theorem matches_step {step step' : Nat → Host → α × Host}
    (hstep : ∀ {h k} (t u : Nat), Alike c ns h k →
      (step t h).1 = (step' u k).1 ∧ Alike c ns (step t h).2 (step' u k).2) :
    Matches c ns (act step done) (act step' done) :=
  fun _ _ ha => agree_act fun t u => agree_done (hstep t u ha)

theorem noteAll_matches (l l' : List Notice) : Matches c ns (noteAll l) (noteAll l') := by
  refine matches_step fun _ _ ha => ?_
  obtain ⟨pairs, hns, hby⟩ := ha
  exact ⟨rfl, pairs, hns, hby.notice l l'⟩

theorem noteFailure_matches {ε : Type} (notice : ε → Notice) (r : Except ε Unit) :
    Matches c ns (noteFailure notice r) (noteFailure notice r) := by
  cases r with
  | ok _ => exact matches_done ()
  | error e => exact noteAll_matches _ _

theorem result_matches (ending : Ending) : Matches c ns ending.result ending.result := by
  cases ending with
  | succeeded => exact matches_done _
  | failed e => exact matches_done _
  | brokeDown message => exact fun _ _ ha => agree_breakDown ha.weaken

theorem wait_matches (r : Response) : Matches c ns r.wait r.wait :=
  matches_bind (matches_sleep _) fun _ => result_matches _

theorem callInstance_matches (hp : (n, m) ∈ ns) (call : Call) :
    Matches c ns (callInstance n call) (callInstance m call) := by
  intro h k ha
  refine agree_act fun t u => ?_
  obtain ⟨pairs, hns, hby⟩ := ha
  obtain ⟨hresponse, hbegun⟩ := hby.beginCall (t := t) (u := u) (hns _ hp) call
  rw [hresponse]
  have hend : Matches c ns
      (changeAt fun now h => h.endCall now n call (k.beginCall u m call).1.ending)
      (changeAt fun now h => h.endCall now m call (k.beginCall u m call).1.ending) := by
    refine matches_step fun _ _ ha => ?_
    obtain ⟨pairs, hns, hby⟩ := ha
    exact ⟨rfl, pairs, hns, hby.endCall (hns _ hp) call _⟩
  exact matches_bind (matches_sleep _) (fun _ => matches_bind hend fun _ => result_matches _)
    ⟨pairs, hns, hbegun⟩

/-- Something about the id happens on both hosts. -/
theorem happen_matches (hid : ∀ k : Host, k.idOf? w = some c.id) :
    Matches c ns (changeAt fun now h => Host.happen h now w)
      (changeAt fun now h => Host.happen h now w) := by
  refine matches_step fun _ _ ha => ?_
  obtain ⟨pairs, hns, hby⟩ := ha
  exact ⟨rfl, pairs, hns, hby.happen rfl (hid _)⟩

theorem callGatewayIfAny_matches (hid : id = c.id) (gateway : Option (ProtocolFamily × Gateway))
    (call : GatewayCall) (notice : ErrorChain → Notice) :
    Matches c ns (callGatewayIfAny id gateway call notice)
      (callGatewayIfAny id gateway call notice) := by
  cases gateway with
  | none => exact matches_done ()
  | some g =>
    have hcall : Matches c ns (callGateway g.1 g.2 id call) (callGateway g.1 g.2 id call) :=
      matches_bind (happen_matches fun _ => congrArg some hid) fun _ => wait_matches _
    exact matches_bind hcall fun r => noteFailure_matches _ r

theorem runHooks_matches (hid : id = c.id) (phase : CleanupPhase) :
    Matches c ns (runHooks id phase) (runHooks id phase) := by
  refine matches_bind (matches_ask fun ha => ha.setup.hooks) fun hooks h k ha => ?_
  have hrun (hook : CleanupHook) :
      Matches c ns (runHook id phase hook) (runHook id phase hook) := by
    refine matches_bind (happen_matches fun _ => congrArg some hid) fun _ => ?_
    exact matches_bind (wait_matches _) fun r => noteFailure_matches _ r
  have hagree := agree_forEach (I := Alike c ns) (f := runHook id phase)
    (fun hook {v v'} hv => agree_mono (hrun hook hv) fun hab => hab.2) hooks ha
  exact agree_mono hagree fun hv => ⟨rfl, hv⟩

theorem callRegistered_matches (hid : id = c.id) (call : Call) (failed : String → LifecycleError) :
    Matches c ns (callRegistered id call failed) (callRegistered id call failed) := by
  subst hid
  refine ask_bind_matches fun {h k} ha => ?_
  rcases ha.found with ⟨hn, hm⟩ | ⟨n, m, hn, hm, hfound⟩
  · rw [hn, hm]
    exact matches_done _ ha
  · rw [hn, hm]
    have hcall : Matches c ((n, m) :: ns) (callInstance n call) (callInstance m call) :=
      callInstance_matches List.mem_cons_self call
    refine agree_mono (matches_bind hcall (fun r => ?_) hfound) fun hab => ⟨hab.1, hab.2.cons⟩
    cases r <;> exact matches_done _

/-! ## Draining -/

/-- What only takes note of something may be different on the two hosts. -/
theorem quiet_matches {p q : HostProgram Unit} (hp : p.Works fun _ => False)
    (hq : q.Works fun _ => False) (hcalm : p.IsCalm) (hcalm' : q.IsCalm) : Matches c ns p q := by
  intro h k ha t r u v t' r' u' v' hp' hq'
  obtain ⟨rfl, hnoticed⟩ := hp.ends_noticed hcalm hp'
  obtain ⟨rfl, hnoticed'⟩ := hq.ends_noticed hcalm' hq'
  obtain ⟨pairs, hns, hby⟩ := ha
  exact .values ⟨rfl, pairs, hns, hby.aside hnoticed hnoticed'⟩

theorem callShutdownHook_matches (hp : (n, m) ∈ ns) (hij : i.Like j) (call : Call) (name : String) :
    Matches c ns (callShutdownHook i n call name) (callShutdownHook j m call name) := by
  unfold callShutdownHook
  rw [hij.conduct, hij.id_eq]
  split
  · exact matches_bind (callInstance_matches hp call) fun r => noteFailure_matches _ r
  · exact matches_done ()

theorem Alike.gatewayFor? (ha : Alike c ns h k) (id : String) :
    h.gatewayFor? id = k.gatewayFor? id := by
  have hgateways : h.gateways = k.gateways := ha.setup.gateways
  rw [Host.gatewayFor?, hgateways, Host.gatewayFor?]

theorem Alike.policy (ha : Alike c ns h k) : h.settings.policy = k.settings.policy := by
  have hsettings : h.settings = k.settings := ha.setup.settings
  rw [hsettings]

/-- How long an instance is given time to answer what is pending may be different. -/
theorem quieting_matches (hp : (n, m) ∈ ns) (hij : i.Like j) (hid : i.id = c.id)
    (timeoutMs : Nat) : Matches c ns (quiet i n timeoutMs) (quiet j m timeoutMs) := by
  have hswitch : Matches c ns (changeAt fun now h => h.switch now n false)
      (changeAt fun now h => h.switch now m false) := by
    refine matches_step fun _ _ ha => ?_
    obtain ⟨pairs, hns, hby⟩ := ha
    exact ⟨rfl, pairs, hns, hby.switch (hns _ hp) false⟩
  unfold quiet
  rw [← hij.id_eq]
  refine matches_bind (callShutdownHook_matches hp hij _ _) fun _ => ?_
  refine matches_bind hswitch fun _ => ?_
  refine matches_bind (matches_ask fun ha => ha.gatewayFor? i.id) fun gateway => ?_
  refine matches_bind (callGatewayIfAny_matches hid gateway _ _) fun _ => ?_
  refine matches_bind (quiet_matches (settle_works i n _) (settle_works j m _) (settle_calm i n _)
    (settle_calm j m _)) fun _ => ?_
  refine matches_bind (callShutdownHook_matches hp hij _ _) fun _ => ?_
  exact callGatewayIfAny_matches hid gateway _ _

theorem stopWithRetry_matches (hp : (n, m) ∈ ns) (hid : id = c.id) :
    Matches c ns (stopWithRetry id n) (stopWithRetry id m) := by
  refine matches_bind (callRegistered_matches hid _ _) fun r => ?_
  cases r with
  | ok _ => exact matches_done _
  | error e =>
    refine matches_bind (noteAll_matches _ _) fun _ => ?_
    refine matches_bind (callInstance_matches hp .stop) fun r => ?_
    cases r <;> exact matches_done _

theorem drain_matches (hp : (n, m) ∈ ns) (timeoutMs : Nat) :
    Matches c ns (drain n timeoutMs) (drain m timeoutMs) := by
  refine ask_bind_matches fun {h k} ha => ?_
  obtain ⟨i, j, hi, hj, hij, hid⟩ := ha.instances hp
  simp only [hi, hj, drainInstance_eq]
  refine matches_bind (quieting_matches hp hij hid timeoutMs) (fun _ => ?_) ha
  exact hij.id_eq ▸ stopWithRetry_matches hp hid

/-! ## The four changes -/

/-- What is built is an instance of its own on either host. -/
theorem build_bind_matches {f g : Except HostError Nat → HostProgram α} (hd : d.id = c.id)
    (hfailed : ∀ e, Matches c ns (f (.error e)) (g (.error e)))
    (hmade : ∀ n m, Matches c ((n, m) :: ns) (f (.ok n)) (g (.ok m))) :
    Matches c ns ((build d).bind f) ((build d).bind g) := by
  intro h k ha
  refine agree_act fun t u => ?_
  obtain ⟨pairs, hns, hby⟩ := ha
  show Agree ((ofOutcome (h.build t d).1).bind f) ((ofOutcome (k.build u d).1).bind g)
    (h.build t d).2 (k.build u d).2 _ _
  rcases hby.build (t := t) (u := u) hd with
    ⟨message, hh, hk, hby⟩ | ⟨e, hh, hk, hby⟩ | ⟨n, m, hh, hk, hby⟩
  · rw [hh, hk]
    exact agree_breakDown ⟨pairs, nofun, hby⟩
  · rw [hh, hk]
    exact hfailed e ⟨pairs, hns, hby⟩
  · rw [hh, hk]
    have hns' : ∀ p ∈ (n, m) :: ns, p ∈ (n, m) :: pairs := List.forall_mem_cons.mpr
      ⟨List.mem_cons_self, fun p hp => List.mem_cons_of_mem _ (hns p hp)⟩
    exact agree_mono (hmade n m ⟨_, hns', hby⟩) fun hab => ⟨hab.1, hab.2.cons⟩

theorem registerAndStart_matches (hp : (n, m) ∈ ns) (hid : id = c.id) :
    Matches c ns (registerAndStart id n) (registerAndStart id m) := by
  subst hid
  have hregister : Matches c ns (register c.id n) (register c.id m) := by
    refine matches_step fun t u ha => ?_
    obtain ⟨pairs, hns, hby⟩ := ha
    obtain ⟨hsame, hby⟩ := hby.register (t := t) (u := u) (hns _ hp)
    exact ⟨hsame, pairs, hns, hby⟩
  refine matches_bind hregister fun r => ?_
  cases r with
  | error e => exact matches_done _
  | ok _ => exact callRegistered_matches rfl _ _

theorem enable_matches (hd : d.id = c.id) : Matches c ns (enable d) (enable d) := by
  unfold enable
  split
  · exact matches_done _
  · refine build_bind_matches hd (fun e => matches_done _) fun n m => ?_
    exact matches_bind (registerAndStart_matches List.mem_cons_self hd) fun _ => matches_done _

theorem disable_matches (hd : d.id = c.id) : Matches c ns (disable d) (disable d) := by
  refine ask_bind_matches fun {h k} ha => ?_
  rw [hd]
  rcases ha.found with ⟨hn, hm⟩ | ⟨n, m, hn, hm, hfound⟩
  · rw [hn, hm]
    exact matches_done _ ha
  · rw [hn, hm]
    have hdrain : Matches c ((n, m) :: ns)
        ((ask (·.settings.policy.drainTimeoutMs)).bind fun timeoutMs =>
          (drain n timeoutMs).bind fun r => done (Except.asHostError r))
        ((ask (·.settings.policy.drainTimeoutMs)).bind fun timeoutMs =>
          (drain m timeoutMs).bind fun r => done (Except.asHostError r)) := by
      refine matches_bind (matches_ask fun ha => congrArg _ ha.policy) fun timeoutMs => ?_
      exact matches_bind (drain_matches List.mem_cons_self _) fun _ => matches_done _
    exact agree_mono (hdrain hfound) fun hab => ⟨hab.1, hab.2.cons⟩

theorem rollBack_matches {old : Descriptor} (hid : id = c.id) (hold : old.id = c.id)
    (e : HostError) : Matches c ns (rollBack id old e) (rollBack id old e) := by
  refine matches_bind (noteAll_matches _ _) fun _ => matches_bind (enable_matches hold) fun r => ?_
  refine matches_bind (noteFailure_matches _ r) fun _ => ?_
  exact matches_bind (runHooks_matches hid _) fun _ => matches_done _

theorem replaceWith_matches {old : Descriptor} (hd : d.id = c.id) (hold : old.id = c.id) :
    Matches c ns (replaceWith d old) (replaceWith d old) := by
  refine build_bind_matches hd (fun e => rollBack_matches hd hold e) fun n m => ?_
  refine matches_bind (registerAndStart_matches List.mem_cons_self hd) fun r => ?_
  cases r <;> exact matches_bind (runHooks_matches hd _) fun _ => matches_done _

/-- What is taken out is not asked for any more. -/
theorem unregister_bind_matches {f g : HostProgram α} (hid : id = c.id) (hf : Matches c ns f g) :
    Matches c ns ((unregister id).bind fun _ => f) ((unregister id).bind fun _ => g) := by
  subst hid
  intro h k ha
  refine agree_act fun t u => ?_
  obtain ⟨pairs, hns, hby⟩ := ha
  exact hf ⟨pairs, hns, hby.unregister⟩

theorem updateRegistered_matches (hp : (n, m) ∈ ns) (hij : i.Like j) (hid : i.id = c.id)
    (hd : d.id = c.id) : Matches c ns (updateRegistered d n i) (updateRegistered d m j) := by
  unfold updateRegistered
  rw [← hij.descriptor]
  refine matches_bind (noteAll_matches _ _) fun _ => ?_
  refine matches_bind (matches_ask fun ha => ha.policy) fun policy => ?_
  refine matches_bind (drain_matches hp _) fun r => ?_
  cases r with
  | error e => exact matches_bind (runHooks_matches hd _) fun _ => matches_done _
  | ok _ =>
    refine unregister_bind_matches hd (matches_bind (callInstance_matches hp _) fun r => ?_)
    refine matches_bind (noteFailure_matches _ r) fun _ => ?_
    refine matches_bind (matches_sleep _) fun _ => ?_
    exact replaceWith_matches hd hid

theorem update_matches (hd : d.id = c.id) : Matches c ns (update d) (update d) := by
  refine ask_bind_matches fun {h k} ha => ?_
  rw [hd]
  rcases ha.found with ⟨hn, hm⟩ | ⟨n, m, hn, hm, hfound⟩
  · rw [hn, hm]
    exact enable_matches hd ha
  · obtain ⟨i, j, hi, hj, hij, hid⟩ := hfound.instances List.mem_cons_self
    simp only [hn, hm, hi, hj, Option.bind_some, Option.map_some]
    refine agree_mono (updateRegistered_matches List.mem_cons_self hij hid hd hfound) fun hab => ?_
    exact ⟨hab.1, hab.2.cons⟩

theorem removeTaken_matches (hp : (n, m) ∈ ns) (hd : d.id = c.id) :
    Matches c ns (removeTaken d n) (removeTaken d m) := by
  refine matches_bind (callInstance_matches hp _) fun r => ?_
  refine matches_bind (noteFailure_matches _ r) fun _ => ?_
  exact matches_bind (runHooks_matches hd _) fun _ => matches_done _

theorem remove_matches (hd : d.id = c.id) : Matches c ns (remove d) (remove d) := by
  refine ask_bind_matches fun {h k} ha => ?_
  have hfound := ha.found
  rw [← hd] at hfound
  rcases hfound with ⟨hn, hm⟩ | ⟨n, m, hn, hm, hfound⟩
  · rw [hn, hm]
    exact matches_done _ ha
  · rw [hn, hm]
    have htaken (r : Except LifecycleError Unit) : Matches c ((n, m) :: ns)
        ((noteFailure (.removalForced d.id) r).bind fun _ =>
          (unregister d.id).bind fun _ => removeTaken d n)
        ((noteFailure (.removalForced d.id) r).bind fun _ =>
          (unregister d.id).bind fun _ => removeTaken d m) := by
      refine matches_bind (noteFailure_matches _ r) fun _ => ?_
      exact unregister_bind_matches hd (removeTaken_matches List.mem_cons_self hd)
    have hasked : Matches c ((n, m) :: ns) (ask (·.settings.policy.drainTimeoutMs))
        (ask (·.settings.policy.drainTimeoutMs)) :=
      matches_ask fun ha => congrArg _ ha.policy
    have hremove := matches_bind hasked fun timeoutMs =>
      matches_bind (drain_matches List.mem_cons_self timeoutMs) htaken
    exact agree_mono (hremove hfound) fun hab => ⟨hab.1, hab.2.cons⟩

/-- Handling an event comes to the same on hosts that are alike for its id. -/
theorem handle_matches {e : Event} (he : e.id = c.id) : Matches c ns (handle e) (handle e) := by
  unfold handle
  split
  · exact enable_matches he
  · exact disable_matches he
  · exact update_matches he
  · exact remove_matches he

end ExtensionHost
