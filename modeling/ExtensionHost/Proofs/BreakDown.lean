import ExtensionHost.Proofs.Invocation
import ExtensionHost.Proofs.Trace

/-!
# Where programs break down

The host's own steps do not break down. If a lifecycle program does, then because foreign
code did that it called last: an instance, a constructor, a gateway or a cleanup hook.
-/

namespace ExtensionHost

open Program

variable {α β : Type} {S : Setup} {t u : Nat} {h h' : Host}

/-- The context that is loaded for a description, with the factory that the entry point leads
to there. -/
def Setup.resolution? (S : Setup) (d : Descriptor) : Option (Context × Factory) := do
  let context ← (S.settings.layout.load S.files S.libraries d).1.toOption
  let f ← context.resolve? S.factories d.entryPoint
  return (context, f)

/-- The last thing that happened is that foreign code broke down with a message. -/
inductive Host.BrokeDown (h : Host) (message : String) : Prop where
  | inConstructor {before : List Happening} {d : Descriptor} {context : Context} {f : Factory}
    {c : Constructor} {invocation : Invocation} {earlier : List Invocation} :
    h.past = before ++ [.constructed d.id d.version invocation f.journaled] →
    h.setup.resolution? d = some (context, f) → f.constructors[invocation.position]? = some c →
    h.invocations d.id = invocation :: earlier →
    (c.build (d.inContext context) invocation.arguments).after earlier = .brokeDown message →
    BrokeDown h message
  | inInstance {before : List Happening} {n : Nat} {call : Call} :
    h.past = before ++ [.ended n call (.brokeDown message)] → BrokeDown h message
  | inGateway {before : List Happening} {family : ProtocolFamily} {g : Gateway} {id : String}
    {call : GatewayCall} :
    h.past = before ++ [.gatewayCalled family id call] → h.gateways.lookup family = some g →
    (g.respond id call).ending = .brokeDown message → BrokeDown h message
  | inHook {before : List Happening} {hook : CleanupHook} {id : String} {phase : CleanupPhase} :
    h.past = before ++ [.hookRun hook.name id phase] → hook ∈ h.hooks →
    (hook.respond id phase).ending = .brokeDown message → BrokeDown h message

/-- On a host with the setup, the program breaks down only where foreign code does. -/
structure Program.Blames (S : Setup) (p : HostProgram α) : Prop where
  setup : ∀ {t h r u h'}, h.setup = S → p.Ends t h r u h' → h'.setup = S
  blames : ∀ {t h message u h'}, h.setup = S → p.Ends t h (.error message) u h' →
    h'.BrokeDown message

/-! ## Programs that cannot break down -/

/-- A program in which nothing breaks down. -/
def Program.IsCalm {σ ι : Type} : Program σ ι α → Prop
  | done _ | goOn _ => True
  | breakDown _ => False
  | act _ next => ∀ b, (next b).IsCalm
  | wait _ _ next => next.IsCalm
  | spawn _ _ next => ∀ number, (next number).IsCalm

theorem isCalm_bind {σ ι : Type} {p : Program σ ι α} {k : α → Program σ ι β} (hp : p.IsCalm)
    (hk : ∀ a, (k a).IsCalm) : (p.bind k).IsCalm := by
  induction p with
  | done a => exact hk a
  | breakDown message => exact hp.elim
  | act step next ih => exact fun b => ih b (hp b)
  | wait ready deadline next ih => exact ih hp
  | spawn own job next ih => exact fun number => ih number (hp number)
  | goOn job => exact trivial

theorem Program.IsCalm.run {σ ι : Type} {others : σ → σ → Prop} {p q : Program σ ι α} {s s' : σ}
    {steps : List (Step σ)} (hp : p.IsCalm) (hrun : p.Run others t s steps q u s') : q.IsCalm := by
  induction hrun with
  | rest | waits => exact hp
  | act _ ih => exact ih (hp _)
  | wakes _ _ _ ih => exact ih hp
  | spawn _ ih => exact ih (hp _)

/-- What cannot break down blames nobody. -/
theorem Program.Works.blames {allowed : Deed → Prop} {p : HostProgram α} (hw : p.Works allowed)
    (hcalm : p.IsCalm) : p.Blames S := by
  refine ⟨fun {t h r u h'} hs hends => ?_, fun {t h message u h'} _ hends => ?_⟩
  · obtain ⟨steps, hrun⟩ := hends
    exact (hw.grew hrun).setup.trans hs
  · obtain ⟨steps, hrun⟩ := hends
    exact (hcalm.run hrun).elim

theorem blames_done (a : α) : (done a : HostProgram α).Blames S := by
  have hw : (done a : HostProgram α).Works fun _ => False := works_done a
  exact hw.blames trivial

theorem blames_bind {p : HostProgram α} {k : α → HostProgram β} (hp : p.Blames S)
    (hk : ∀ a, (k a).Blames S) : (p.bind k).Blames S := by
  refine ⟨fun {t h r u h'} hs hends => ?_, fun {t h message u h'} hs hends => ?_⟩
  · obtain ⟨a, t₁, h₁, hfirst, hrest⟩ | ⟨message, -, hfirst⟩ := ends_bind.mp hends
    · exact (hk a).setup (hp.setup hs hfirst) hrest
    · exact hp.setup hs hfirst
  · obtain ⟨a, t₁, h₁, hfirst, hrest⟩ | ⟨message, hmessage, hfirst⟩ := ends_bind.mp hends
    · exact (hk a).blames (hp.setup hs hfirst) hrest
    · cases hmessage
      exact hp.blames hs hfirst

/-- What comes after a question may rely on the answer. -/
theorem blames_ask_bind {f : Host → β} {k : β → HostProgram α}
    (hk : ∀ h, h.setup = S → (k (f h)).Blames S) : ((ask f).bind k).Blames S := by
  refine ⟨fun {t h r u h'} hs hends => ?_, fun {t h message u h'} hs hends => ?_⟩
  · exact (hk h hs).setup hs (ends_act.mp hends)
  · exact (hk h hs).blames hs (ends_act.mp hends)

/-! ## Foreign code -/

/-- What an ending is for the caller: a value, or the message of a break-down. -/
def Ending.outcome : Ending → Except String (Except ErrorChain Unit)
  | .succeeded => .ok (.ok ())
  | .failed e => .ok (.error e)
  | .brokeDown message => .error message

@[simp] theorem result_ends {ending : Ending} {r : Except String (Except ErrorChain Unit)} :
    ending.result.Ends t h r u h' ↔ r = ending.outcome ∧ u = t ∧ h' = h := by
  cases ending <;> simp [Ending.result, Ending.outcome]

theorem Ending.outcome_eq_error {ending : Ending} {message : String}
    (h : .error message = ending.outcome) : ending = .brokeDown message := by
  cases ending with
  | brokeDown message' =>
    cases h
    rfl
  | _ => cases h

/-- An answer takes its time, and changes nothing. -/
theorem wait_ends {response : Response} {r : Except String (Except ErrorChain Unit)} :
    response.wait.Ends t h r u h' ↔
      r = response.ending.outcome ∧ t + response.delayMs ≤ u ∧ h' = h := by
  simp only [Response.wait, bind_eq, ends_bind, ends_sleep, result_ends]
  constructor
  · rintro (⟨a, t₁, h₁, ⟨-, hle, rfl⟩, hr, rfl, rfl⟩ | ⟨message, -, hno, -⟩)
    · exact ⟨hr, hle, rfl⟩
    · cases hno
  · rintro ⟨hr, hle, rfl⟩
    exact .inl ⟨(), u, h', ⟨trivial, hle, rfl⟩, hr, rfl, rfl⟩

/-- A call of an instance that is there ends as the instance answers. -/
theorem callInstance_ends {n : Nat} {call : Call} {r : Except String (Except ErrorChain Unit)} :
    (callInstance n call).Ends t h r u h' ↔
      r = (h.beginCall t n call).1.ending.outcome ∧
        t + (h.beginCall t n call).1.delayMs ≤ u ∧
        h' = (h.beginCall t n call).2.endCall u n call (h.beginCall t n call).1.ending := by
  simp only [callInstance, bind_eq, ends_act, ends_bind, ends_sleep, ends_changeAt, result_ends]
  constructor
  · rintro (⟨a, t₁, h₁, ⟨-, hle, rfl⟩, hrest⟩ | ⟨message, -, hno, -⟩)
    · obtain ⟨b, t₂, h₂, ⟨-, rfl, rfl⟩, hr, rfl, rfl⟩ | ⟨message, -, hno, -⟩ := hrest
      · exact ⟨hr, hle, rfl⟩
      · cases hno
    · cases hno
  · rintro ⟨hr, hle, rfl⟩
    exact .inl ⟨(), u, _, ⟨trivial, hle, rfl⟩, .inl ⟨(), u, _, ⟨trivial, rfl, rfl⟩, hr, rfl, rfl⟩⟩

theorem callInstance_blames (n : Nat) (call : Call) : (callInstance n call).Blames S := by
  have hw : (callInstance n call).Works (Deed.IsCall (fun _ => True) fun _ => True) :=
    callInstance_isCall trivial trivial
  refine ⟨fun {t h r u h'} hs hends => ?_, fun {t h message u h'} hs hends => ?_⟩
  · obtain ⟨steps, hrun⟩ := hends
    exact (hw.grew hrun).setup.trans hs
  · obtain ⟨hr, -, rfl⟩ := callInstance_ends.mp hends
    have hpast : ((h.beginCall t n call).2.endCall u n call (.brokeDown message)).past =
        (h.beginCall t n call).2.past ++ [.ended n call (.brokeDown message)] := by
      simp [Host.endCall]
    rw [Ending.outcome_eq_error hr]
    exact .inInstance hpast

/-- An answer to something that happened just before. -/
theorem happen_wait_blames {w : Happening} {response : Response}
    (hbroke : ∀ {h : Host} {message before}, h.setup = S → h.past = before ++ [w] →
      response.ending = .brokeDown message → h.BrokeDown message) :
    ((changeAt fun now h => Host.happen h now w).bind fun _ => response.wait).Blames S := by
  refine ⟨fun {t h r u h'} hs hends => ?_, fun {t h message u h'} hs hends => ?_⟩
  · simp only [ends_bind, ends_changeAt, wait_ends] at hends
    obtain ⟨a, t₁, h₁, ⟨-, -, rfl⟩, -, -, rfl⟩ | ⟨message, -, hno, -⟩ := hends
    · exact hs
    · cases hno
  · simp only [ends_bind, ends_changeAt, wait_ends] at hends
    obtain ⟨a, t₁, h₁, ⟨-, -, rfl⟩, hr, -, rfl⟩ | ⟨message, -, hno, -⟩ := hends
    · exact hbroke hs Host.past_happen (Ending.outcome_eq_error hr)
    · cases hno

theorem callGateway_blames {family : ProtocolFamily} {g : Gateway} {id : String}
    {call : GatewayCall} (hg : S.gateways.lookup family = some g) :
    (callGateway family g id call).Blames S := by
  refine happen_wait_blames fun hs hpast hbroke => ?_
  subst hs
  exact .inGateway hpast hg hbroke

theorem noteAll_blames (notices : List Notice) : (noteAll notices).Blames S := by
  have hw : (noteAll notices).Works fun _ => False := noteAll_works notices
  exact hw.blames fun _ => trivial

theorem noteFailure_blames {ε : Type} (notice : ε → Notice) (r : Except ε Unit) :
    (noteFailure notice r).Blames S := by
  cases r with
  | ok _ => exact blames_done ()
  | error e => exact noteAll_blames _

theorem runHook_blames {hook : CleanupHook} {id : String} {phase : CleanupPhase}
    (hmem : hook ∈ S.hooks) : (runHook id phase hook).Blames S := by
  -- The answer of the hook is taken together with the run of it that it is the answer to.
  have heq : runHook id phase hook =
      ((changeAt fun now h => Host.happen h now (.hookRun hook.name id phase)).bind fun _ =>
        (hook.respond id phase).wait).bind
          fun r => noteFailure (.cleanupHookFailed id hook.name phase) r :=
    (bind_assoc _ _ _).symm
  rw [heq]
  refine blames_bind (happen_wait_blames fun hs hpast hbroke => ?_) fun r => noteFailure_blames _ r
  subst hs
  exact .inHook hpast hmem hbroke

theorem runHooks_blames (id : String) (phase : CleanupPhase) : (runHooks id phase).Blames S := by
  -- The hooks are read once, at the start; the setup has them to the end.
  have heach : ∀ hooks, hooks ⊆ S.hooks → (forEach (runHook id phase) hooks).Blames S := by
    intro hooks hsub
    induction hooks with
    | nil => exact blames_done ()
    | cons hook rest ih =>
      obtain ⟨hmem, hrest⟩ := List.cons_subset.mp hsub
      exact blames_bind (runHook_blames hmem) fun _ => ih hrest
  refine blames_ask_bind fun h hs => heach _ ?_
  subst hs
  exact List.Subset.refl _

/-! ## Lifecycle programs -/

theorem callRegistered_blames (id : String) (call : Call) (failed : String → LifecycleError) :
    (callRegistered id call failed).Blames S := by
  refine blames_ask_bind fun h _ => ?_
  cases h.registry.get? id with
  | none => exact blames_done _
  | some n =>
    refine blames_bind (callInstance_blames n call) fun r => ?_
    cases r <;> exact blames_done _

theorem waitForPending_calm (n interval deadline looks : Nat) :
    (waitForPending n interval deadline looks).IsCalm := by
  induction looks with
  | zero => exact trivial
  | succ looks ih =>
    intro look
    cases look with
    | answered | late => exact trivial
    | again time => exact isCalm_bind trivial fun _ => ih

theorem settle_calm (i : Instance) (n timeoutMs : Nat) : (settle i n timeoutMs).IsCalm := by
  unfold settle
  split
  · refine isCalm_bind (fun _ => trivial) fun interval => isCalm_bind (fun _ => trivial) fun _ => ?_
    refine isCalm_bind (waitForPending_calm _ _ _ _) fun left => ?_
    split
    · exact trivial
    · exact fun _ => trivial
  · exact trivial

theorem settle_blames (i : Instance) (n timeoutMs : Nat) : (settle i n timeoutMs).Blames S := by
  have hw : (settle i n timeoutMs).Works fun _ => False := settle_works i n timeoutMs
  exact hw.blames (settle_calm i n timeoutMs)

theorem callShutdownHook_blames (i : Instance) (n : Nat) (call : Call) (name : String) :
    (callShutdownHook i n call name).Blames S := by
  unfold callShutdownHook
  split
  · exact blames_bind (callInstance_blames n call) fun r => noteFailure_blames _ r
  · exact blames_done ()

/-- The gateway that is asked for is one of the setup. -/
theorem callGatewayIfAny_blames {h : Host} (hs : h.setup = S) (id : String) (call : GatewayCall)
    (notice : ErrorChain → Notice) :
    (callGatewayIfAny id (h.gatewayFor? id) call notice).Blames S := by
  cases hg : h.gatewayFor? id with
  | none => exact blames_done ()
  | some found =>
    obtain ⟨family, g⟩ := found
    have hlookup : S.gateways.lookup family = some g := by
      subst hs
      simp only [Host.gatewayFor?, Option.bind_eq_bind, Option.bind_eq_some_iff] at hg
      obtain ⟨family', -, g', hg, heq⟩ := hg
      cases heq
      exact hg
    exact blames_bind (callGateway_blames hlookup) fun r => noteFailure_blames _ r

theorem quiet_blames (i : Instance) (n timeoutMs : Nat) : (quiet i n timeoutMs).Blames S := by
  have hswitch : (changeAt fun now h => h.switch now n false : HostProgram Unit).Blames S := by
    have hw : (changeAt fun now h => h.switch now n false : HostProgram Unit).Works
        (Deed.IsQuieting n) := works_deed (d := .switch n false) (.inr ⟨rfl, rfl⟩) fun _ _ => rfl
    exact hw.blames fun _ => trivial
  refine blames_bind (callShutdownHook_blames i n _ _) fun _ => blames_bind hswitch fun _ => ?_
  -- One gateway is asked for, and called twice.
  refine blames_ask_bind fun h hs => ?_
  refine blames_bind (callGatewayIfAny_blames hs _ _ _) fun _ => ?_
  refine blames_bind (settle_blames i n timeoutMs) fun _ => ?_
  refine blames_bind (callShutdownHook_blames i n _ _) fun _ => ?_
  exact callGatewayIfAny_blames hs _ _ _

theorem stopWithRetry_blames (id : String) (n : Nat) : (stopWithRetry id n).Blames S := by
  refine blames_bind (callRegistered_blames id .stop _) fun r => ?_
  cases r with
  | ok _ => exact blames_done _
  | error e =>
    refine blames_bind (noteAll_blames _) fun _ => ?_
    refine blames_bind (callInstance_blames n .stop) fun r => ?_
    cases r <;> exact blames_done _

theorem drain_blames (n timeoutMs : Nat) : (drain n timeoutMs).Blames S := by
  refine blames_ask_bind fun h _ => ?_
  cases h.instance? n with
  | none => exact blames_done _
  | some i =>
    show (drainInstance i n timeoutMs).Blames S
    rw [drainInstance_eq]
    exact blames_bind (quiet_blames i n timeoutMs) fun _ => stopWithRetry_blames i.id n

@[simp] theorem build_ends {d : Descriptor} {r : Except String (Except HostError Nat)} :
    (build d).Ends t h r u h' ↔ r = (h.build t d).1 ∧ u = t ∧ h' = (h.build t d).2 := by
  simp [build]

/-- An instantiation breaks down with the constructor that it has invoked last. -/
theorem instantiate_brokeDown {fallback : Bool} {f : Factory} {d : Descriptor}
    {args : List DependencyValue} {earlier : List Invocation} {message : String}
    (hb : (instantiate fallback f d args earlier).brokeDown = some message) :
    ∃ c tried invocation, f.constructors[invocation.position]? = some c ∧
      (instantiate fallback f d args earlier).invoked = tried ++ [invocation] ∧
      (c.build d invocation.arguments).after (tried.reverse ++ earlier) =
        .brokeDown message := by
  have hsettled : (tryCandidates d args (f.candidates args) earlier).settled =
      some (.error message) := by
    simp only [instantiate] at hb
    split at hb
    · cases hb
    next heq =>
      cases hb
      exact heq
    next =>
      split at hb <;> cases hb
  obtain ⟨c, hc, tried, hlast, hinvoked⟩ := tryCandidates_last hsettled
  refine ⟨c.constructor, tried, c.invocation args, (mem_candidates hc).1, ?_, ?_⟩
  · rw [instantiate_invoked, hinvoked]
  · cases hbuild : c.invoke (tried.reverse ++ earlier) d args with
    | brokeDown =>
      rw [hbuild] at hlast
      cases hlast
      exact hbuild
    | made | failed =>
      rw [hbuild] at hlast
      cases hlast

/-- A construction in a context breaks down with the constructor that it has invoked last. -/
theorem Host.constructIn_brokeDown {g : Host} {context : Context} {d : Descriptor}
    {message : String} (hb : (g.constructIn t context d).1 = .error message) :
    ∃ f c tried invocation, context.resolve? g.factories d.entryPoint = some f ∧
      f.constructors[invocation.position]? = some c ∧
      (c.build (d.inContext context) invocation.arguments).after
        (tried.reverse ++ g.invocations d.id) = .brokeDown message ∧
      (g.constructIn t context d).2.past = g.past ++
        (tried ++ [invocation]).map (.constructed d.id d.version · f.journaled) := by
  unfold Host.constructIn at hb ⊢
  split at hb
  · cases hb
  next f hresolve =>
    simp only [Host.construct] at hb ⊢
    split at hb
    next broke _ hbroke =>
      cases hb
      obtain ⟨c, tried, invocation, hplace, hinvoked, hbuild⟩ := instantiate_brokeDown hbroke
      refine ⟨f, c, tried, invocation, hresolve, hplace, hbuild, ?_⟩
      simp only [hinvoked]
      exact past_noteInvocations ..
    next => cases hb
    next => cases hb

/-- A build breaks down with the constructor that it has invoked last. -/
theorem Host.build_brokeDown {d : Descriptor} {message : String}
    (hb : (h.build t d).1 = .error message) : (h.build t d).2.BrokeDown message := by
  have hsetup : (h.build t d).2.setup = h.setup := (h.perform_grew t (.build d)).setup
  generalize hbuilt : h.build t d = built at hb hsetup ⊢
  unfold Host.build at hbuilt
  split at hbuilt
  · subst hbuilt
    cases hb
  split at hbuilt
  · subst hbuilt
    cases hb
  next context notices hload =>
    split at hbuilt
    · subst hbuilt
      cases hb
    next unmade g _ hin =>
      subst hbuilt
      have hbroke : ((h.notice notices).constructIn t context d).1 = .error message := hin ▸ hb
      obtain ⟨f, c, tried, invocation, hresolve, hplace, hbuild, hpast⟩ :=
        constructIn_brokeDown hbroke
      rw [hin] at hpast
      have hlast : g.past = h.past ++ tried.map (.constructed d.id d.version · f.journaled) ++
          [.constructed d.id d.version invocation f.journaled] := by
        simpa using hpast
      have hresolution : g.setup.resolution? d = some (context, f) := by
        rw [show g.setup = h.setup from hsetup]
        have hresolve' : context.resolve? h.factories d.entryPoint = some f := hresolve
        simp [Setup.resolution?, Host.setup, hload, Except.toOption, hresolve']
      refine .inConstructor hlast hresolution hplace ?_ hbuild
      rw [invocations_of_past hpast]
      simp

theorem build_blames (d : Descriptor) : (build d).Blames S := by
  refine ⟨fun {t h r u h'} hs hends => ?_, fun {t h message u h'} hs hends => ?_⟩
  · obtain ⟨-, -, rfl⟩ := build_ends.mp hends
    exact (h.perform_grew t (.build d)).setup.trans hs
  · obtain ⟨hb, -, rfl⟩ := build_ends.mp hends
    exact Host.build_brokeDown hb.symm

theorem registerAndStart_blames (id : String) (n : Nat) : (registerAndStart id n).Blames S := by
  have hw : (register id n).Works (· = .register id n) := register_works rfl
  refine blames_bind (hw.blames fun _ => trivial) fun r => ?_
  cases r with
  | error e => exact blames_done _
  | ok _ => exact callRegistered_blames id .start _

theorem enable_blames (d : Descriptor) : (enable d).Blames S := by
  unfold enable
  split
  · exact blames_done _
  · refine blames_bind (build_blames d) fun r => ?_
    cases r with
    | error e => exact blames_done _
    | ok n => exact blames_bind (registerAndStart_blames d.id n) fun _ => blames_done _

theorem rollBack_blames (id : String) (old : Descriptor) (e : HostError) :
    (rollBack id old e).Blames S := by
  refine blames_bind (noteAll_blames _) fun _ => blames_bind (enable_blames old) fun r => ?_
  refine blames_bind (noteFailure_blames _ r) fun _ => ?_
  exact blames_bind (runHooks_blames _ _) fun _ => blames_done _

theorem replaceWith_blames (d old : Descriptor) : (replaceWith d old).Blames S := by
  refine blames_bind (build_blames d) fun r => ?_
  cases r with
  | error e => exact rollBack_blames d.id old e
  | ok n =>
    refine blames_bind (registerAndStart_blames d.id n) fun r => ?_
    cases r <;> exact blames_bind (runHooks_blames _ _) fun _ => blames_done _

theorem unregister_blames (id : String) : (unregister id).Blames S := by
  have hw : (unregister id).Works (· = .unregister id) := unregister_works rfl
  exact hw.blames fun _ => trivial

theorem sleep_blames (ms : Nat) : (sleep ms : HostProgram Unit).Blames S := by
  have hw : (sleep ms : HostProgram Unit).Works fun _ => False := works_sleep ms
  exact hw.blames fun _ => trivial

theorem updateRegistered_blames (d : Descriptor) (n : Nat) (old : Instance) :
    (updateRegistered d n old).Blames S := by
  refine blames_bind (noteAll_blames _) fun _ => blames_ask_bind fun h _ => ?_
  refine blames_bind (drain_blames n _) fun r => ?_
  cases r with
  | error e => exact blames_bind (runHooks_blames _ _) fun _ => blames_done _
  | ok _ =>
    refine blames_bind (unregister_blames d.id) fun _ => ?_
    refine blames_bind (callInstance_blames n _) fun r => ?_
    refine blames_bind (noteFailure_blames _ r) fun _ => ?_
    exact blames_bind (sleep_blames _) fun _ => replaceWith_blames d _

theorem update_blames (d : Descriptor) : (update d).Blames S := by
  refine blames_ask_bind fun h _ => ?_
  cases (h.registry.get? d.id).bind fun n => (h.instance? n).map (n, ·) with
  | none => exact enable_blames d
  | some found => exact updateRegistered_blames d found.1 found.2

theorem disable_blames (d : Descriptor) : (disable d).Blames S := by
  refine blames_ask_bind fun h _ => ?_
  cases h.registry.get? d.id with
  | none => exact blames_done _
  | some n =>
    refine blames_ask_bind fun h _ => ?_
    exact blames_bind (drain_blames n _) fun _ => blames_done _

theorem remove_blames (d : Descriptor) : (remove d).Blames S := by
  refine blames_ask_bind fun h _ => ?_
  cases h.registry.get? d.id with
  | none => exact blames_done _
  | some n =>
    refine blames_ask_bind fun h _ => ?_
    refine blames_bind (drain_blames n _) fun r => blames_bind (noteFailure_blames _ r) fun _ => ?_
    refine blames_bind (unregister_blames d.id) fun _ => ?_
    refine blames_bind (callInstance_blames n _) fun r => ?_
    refine blames_bind (noteFailure_blames _ r) fun _ => ?_
    exact blames_bind (runHooks_blames _ _) fun _ => blames_done _

/-- An event that nobody disturbs breaks down only where foreign code does. -/
theorem handle_blames (e : Event) : (handle e).Blames S := by
  unfold handle
  split
  · exact enable_blames _
  · exact disable_blames _
  · exact update_blames _
  · exact remove_blames _

/-- Events that are handled one after another break down only where foreign code does. -/
theorem handleEach_blames (events : List Event) (r : BatchResult) :
    (handleEach events r).Blames S := by
  induction events generalizing r with
  | nil => exact blames_done r
  | cons e rest ih =>
    refine blames_bind (handle_blames e) fun outcome => ?_
    exact blames_bind (noteFailure_blames _ outcome) fun _ => ih _

end ExtensionHost
