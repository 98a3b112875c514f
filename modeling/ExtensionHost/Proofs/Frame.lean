import ExtensionHost.Proofs.Tasks

/-!
# What handling an event leaves alone

An event is about one id. Whatever the others do meanwhile, handling it changes nothing
of the instances that report other ids, and nothing of what is registered under those.
-/

namespace ExtensionHost

open Program

variable {α β : Type} {t u : Nat} {h h' : Host} {n m : Nat} {id : String}

/-! ## Deeds -/

/-- What has become of a host of which only one id was worked on. -/
structure Host.SparesOthers (id : String) (h h' : Host) : Prop where
  instances : ∀ {k i}, h.instance? k = some i → i.id ≠ id → h'.instance? k = some i
  records : ∀ {id'}, id' ≠ id → h'.registry.get? id' = h.registry.get? id'
  contexts : ∀ {id'}, id' ≠ id → h'.registry.context? id' = h.registry.context? id'

theorem Host.SparesOthers.refl (id : String) (h : Host) : h.SparesOthers id h :=
  ⟨fun hi _ => hi, fun _ => rfl, fun _ => rfl⟩

theorem Host.SparesOthers.trans {h'' : Host} (hs : h.SparesOthers id h')
    (hs' : h'.SparesOthers id h'') : h.SparesOthers id h'' where
  instances hi hid := hs'.instances (hs.instances hi hid) hid
  records hid := (hs'.records hid).trans (hs.records hid)
  contexts hid := (hs'.contexts hid).trans (hs.contexts hid)

/-- The instance with the number reports the id. -/
def Host.Reports (h : Host) (id : String) (n : Nat) : Prop :=
  ∃ i, h.instance? n = some i ∧ i.id = id

theorem Host.Reports.of_instances (hn : h.Reports id n)
    (hi : ∀ {n i}, h.instance? n = some i → ∃ i', h'.instance? n = some i' ∧ i'.make = i.make) :
    h'.Reports id n := by
  obtain ⟨i, hin, hid⟩ := hn
  obtain ⟨i', hin', hmake⟩ := hi hin
  exact ⟨i', hin', (Instance.id_eq_of_make hmake).trans hid⟩

/-- Whether a deed is about no other id, and about no instance that reports another. -/
def Deed.Aims (id : String) (h : Host) : Deed → Prop
  | .beginCall n _ | .endCall n _ _ | .switch n _ => h.Reports id n
  | .register id' _ | .unregister id' => id' = id
  | _ => True

theorem Deed.IsQuiet.aims {d : Deed} (hd : d.IsQuiet) : d.Aims id h := by
  cases d <;> trivial

theorem Host.modifyInstance_spares {f : Instance → Instance} {k : Nat} {i : Instance}
    (hn : h.Reports id n) (hk : h.instance? k = some i) (hid : i.id ≠ id) :
    (h.modifyInstance n f).instance? k = some i := by
  obtain ⟨j, hj, hjid⟩ := hn
  rw [instance?_modifyInstance, if_neg, hk]
  rintro rfl
  cases hj.symm.trans hk
  exact hid hjid

theorem Deed.Aims.sparesId {d : Deed} {id' : String} (hd : d.Aims id h) (hid : id' ≠ id) :
    d.SparesId id' := by
  cases d with
  | register id'' m | unregister id'' =>
    obtain rfl : id'' = id := hd
    exact Ne.symm hid
  | _ => trivial

/-- A deed that is about one id leaves the others alone. -/
theorem Host.perform_sparesOthers {now : Nat} {d : Deed} (hd : d.Aims id h) :
    h.SparesOthers id (h.perform now d) := by
  refine ⟨fun {k i} hk hid => ?_, fun hid => ?_, fun hid => ?_⟩
  · cases d with
    | nothing | notice | callGateway | runHook => exact hk
    | beginCall m call =>
      have ⟨j, hj, _⟩ := hd
      rw [perform, beginCall_some hj]
      exact modifyInstance_spares hd hk hid
    | endCall m call ending => exact modifyInstance_spares hd hk hid
    | switch m enabled => exact modifyInstance_spares hd hk hid
    | build d =>
      obtain ⟨made, hb⟩ := (h.build_makes now d).built
      exact hb.instance?_eq hk
    | register id' m =>
      cases hblank : isBlankText id' with
      | true => rwa [perform, register_blank hblank]
      | false =>
        rw [perform, register_not_blank hblank]
        exact hk
    | unregister id' =>
      cases hm : h.registry.get? id' with
      | none =>
        rw [perform, unregister_none hm]
        exact hk
      | some m =>
        rw [perform, unregister_some hm]
        exact hk
  · exact (perform_sparesId (hd.sparesId hid)).1
  · exact (perform_sparesId (hd.sparesId hid)).2

/-! ## Programs -/

/-- The instances with the numbers report the id. -/
def Host.ReportAll (h : Host) (id : String) (numbers : List Nat) : Prop :=
  ∀ n ∈ numbers, h.Reports id n

theorem Host.ReportAll.of_instances {numbers : List Nat} (hn : h.ReportAll id numbers)
    (hi : ∀ {n i}, h.instance? n = some i → ∃ i', h'.instance? n = some i' ∧ i'.make = i.make) :
    h'.ReportAll id numbers :=
  fun n hmem => (hn n hmem).of_instances hi

/-- Where the instances with the numbers report the id, every step of the program leaves
alone what is about other ids. -/
def Program.SparesOthers (id : String) (numbers : List Nat) (p : HostProgram α) : Prop :=
  ∀ t h, h.Sound → h.ReportAll id numbers →
    p.wp Host.Later (fun _ => Host.SparesOthers id) (fun _ _ _ => True) t h

variable {numbers : List Nat}

/-- A program whose deeds are all about the id. -/
theorem Program.Works.sparesOthers {allowed : Deed → Prop} {p : HostProgram α}
    (hw : p.Works allowed)
    (haims : ∀ {h}, h.ReportAll id numbers → ∀ d, allowed d → d.Aims id h) :
    p.SparesOthers id numbers := by
  intro t h _ hreports
  -- What an instance reports never changes, so the numbers stay those of the id.
  have hkept : p.wp Host.Later (fun now h h' => h.ReportAll id numbers ∧ Host.Did allowed now h h')
      (fun _ h _ => h.ReportAll id numbers ∧ True) t h := by
    refine wp_invariant (fun hr hl => hr.of_instances hl.instances) (fun {now h h'} hr hd => ?_)
      hw.does.wp hreports
    obtain ⟨d, -, rfl⟩ := hd
    exact hr.of_instances (h.perform_grew now d).instances
  refine wp_mono hkept (fun hl => hl) (fun {now h h'} hd => ?_) fun _ => trivial
  obtain ⟨hr, d, hd, rfl⟩ := hd
  exact Host.perform_sparesOthers (hd.elim Deed.IsQuiet.aims (haims hr d))

/-- One program after another. -/
theorem sparesOthers_bind {p : HostProgram α} {k : α → HostProgram β}
    (hp : p.SparesOthers id numbers) (hkeeps : p.KeepsHost)
    (hk : ∀ a, (k a).SparesOthers id numbers) : (p.bind k).SparesOthers id numbers := by
  intro t h hs hreports
  -- The second program needs a sound host again, which the steps of the first one keep.
  have hboth : p.wp Host.Later (fun _ h h' => h.SparesOthers id h' ∧ h.Later h')
      (fun _ _ _ => True ∧ True) t h := wp_and (hp t h hs hreports) hkeeps.wp
  have hkept := wp_invariant (I := fun h => h.Sound ∧ h.ReportAll id numbers)
    (fun hI hl => ⟨hl.sound hI.1, hI.2.of_instances hl.instances⟩)
    (fun hI hl => ⟨hl.2.sound hI.1, hI.2.of_instances hl.2.instances⟩) hboth ⟨hs, hreports⟩
  refine wp_bind (wp_mono hkept (fun hl => hl) (fun hg => hg.2.1) fun {t h r} hpost => ?_)
  cases r with
  | ok a => exact hk a t h hpost.1.1 hpost.1.2
  | error message => exact trivial

/-- An answer about the state. -/
theorem ask_bind_sparesOthers {f : Host → β} {k : β → HostProgram α}
    (hk : ∀ t h, h.Sound → h.ReportAll id numbers →
      (k (f h)).wp Host.Later (fun _ => Host.SparesOthers id) (fun _ _ _ => True) t h) :
    ((ask f).bind k).SparesOthers id numbers :=
  fun t h hs hreports => ⟨.refl id h, hk t h hs hreports⟩

theorem quiet_sparesOthers {p : HostProgram α} (hw : p.Works fun _ => False) :
    p.SparesOthers id numbers :=
  hw.sparesOthers fun _ _ => False.elim

theorem callInstance_sparesOthers {call : Call} (hn : n ∈ numbers) :
    (callInstance n call).SparesOthers id numbers := by
  have hw : (callInstance n call).Works (Deed.IsCall (· = n) fun _ => True) :=
    callInstance_isCall rfl trivial
  refine hw.sparesOthers fun hr d hd => ?_
  cases d with
  | beginCall m call | endCall m call ending =>
    obtain ⟨rfl, -⟩ := hd
    exact hr m hn
  | _ => exact hd.elim

theorem callRegistered_sparesOthers {call : Call} {failed : String → LifecycleError} :
    (callRegistered id call failed).SparesOthers id numbers := by
  refine ask_bind_sparesOthers fun t h hs hreports => ?_
  cases hn : h.registry.get? id with
  | none => exact trivial
  | some n =>
    -- In a sound host what is found reports the id it is found under.
    have hcall : (callInstance n call).SparesOthers id (n :: numbers) :=
      callInstance_sparesOthers List.mem_cons_self
    have hkeeps : (callInstance n call).KeepsHost :=
      callInstance_keepsHost n call
    refine sparesOthers_bind hcall hkeeps (fun r => ?_) t h hs
      (List.forall_mem_cons.mpr ⟨hs.reports hn, hreports⟩)
    cases r <;> exact fun _ _ _ _ => trivial

/-! ## Handling an event -/

theorem done_sparesOthers (a : α) : (done a : HostProgram α).SparesOthers id numbers :=
  fun _ _ _ _ => trivial

theorem noteFailure_sparesOthers {ε : Type} (notice : ε → Notice) (r : Except ε Unit) :
    (noteFailure notice r).SparesOthers id numbers :=
  quiet_sparesOthers (noteFailure_works notice r)

theorem runHooks_sparesOthers (id' : String) (phase : CleanupPhase) :
    (runHooks id' phase).SparesOthers id numbers := by
  have hw : (runHooks id' phase).Works Deed.IsHookRun := runHooks_works fun _ => trivial
  refine hw.sparesOthers fun _ d hd => ?_
  cases d <;> trivial

theorem stopWithRetry_sparesOthers (hn : n ∈ numbers) :
    (stopWithRetry id n).SparesOthers id numbers := by
  refine sparesOthers_bind callRegistered_sparesOthers (callRegistered_keepsHost _ _ _) fun r => ?_
  cases r with
  | ok _ => exact done_sparesOthers _
  | error e =>
    refine sparesOthers_bind (quiet_sparesOthers (noteAll_works _)) (noteAll_keepsHost _)
      fun _ => ?_
    refine sparesOthers_bind (callInstance_sparesOthers hn) (callInstance_keepsHost n .stop)
      fun r => ?_
    cases r <;> exact done_sparesOthers _

theorem drain_sparesOthers {timeoutMs : Nat} (hn : n ∈ numbers) :
    (drain n timeoutMs).SparesOthers id numbers := by
  refine ask_bind_sparesOthers fun t h hs hreports => ?_
  obtain ⟨i, hi, rfl⟩ := hreports n hn
  simp only [hi, drainInstance_eq]
  have hquiet : (quiet i n timeoutMs).SparesOthers i.id numbers := by
    refine (quiet_works i n timeoutMs).sparesOthers fun hr d hd => ?_
    cases d with
    | beginCall m call | endCall m call ending | switch m enabled =>
      obtain ⟨rfl, -⟩ := hd
      exact hr m hn
    | callGateway => trivial
    | _ => exact hd.elim
  have hkeeps : (quiet i n timeoutMs).KeepsHost :=
    (quiet_works i n timeoutMs).keepsHost fun _ => Deed.IsQuieting.sparesRegistry
  exact sparesOthers_bind hquiet hkeeps (fun _ => stopWithRetry_sparesOthers hn) t h hs hreports

/-- What is built reports the id. -/
theorem build_bind_sparesOthers {d : Descriptor} {k : Except HostError Nat → HostProgram α}
    (hfailed : ∀ e, (k (.error e)).SparesOthers d.id numbers)
    (hmade : ∀ n, (k (.ok n)).SparesOthers d.id (n :: numbers)) :
    ((build d).bind k).SparesOthers d.id numbers := by
  intro t h hs hreports
  have hlater : h.Later (h.build t d).2 := Host.perform_later (d := .build d) trivial
  have hmakes := h.build_makes t d
  refine ⟨Host.perform_sparesOthers (d := .build d) trivial, ?_⟩
  show wp _ _ _ ((ofOutcome (h.build t d).1).bind k) t (h.build t d).2
  have hreports' := hreports.of_instances hlater.instances
  have hs' := hlater.sound hs
  generalize h.build t d = made at hmakes hreports' hs'
  cases hmakes with
  | brokeDown => exact trivial
  | failed hb => exact hfailed _ t _ hs' hreports'
  | made hb hid =>
    exact hmade _ t _ hs' (List.forall_mem_cons.mpr ⟨⟨_, hb.instance?_next, hid⟩, hreports'⟩)

theorem registerAndStart_bind_sparesOthers {k : Except LifecycleError Unit → HostProgram α}
    (hn : n ∈ numbers) (hk : ∀ r, (k r).SparesOthers id numbers) :
    ((registerAndStart id n).bind k).SparesOthers id numbers := by
  intro t h hs hreports
  have hlater : h.Later (h.register t id n).2 :=
    Host.perform_later (d := .register id n) (hreports n hn)
  refine ⟨Host.perform_sparesOthers (d := .register id n) rfl, ?_⟩
  have hreports' := hreports.of_instances hlater.instances
  dsimp only [pure_bind]
  cases (h.register t id n).1 with
  | error e => exact hk _ t _ (hlater.sound hs) hreports'
  | ok _ =>
    exact sparesOthers_bind callRegistered_sparesOthers (callRegistered_keepsHost _ _ _) hk t _
      (hlater.sound hs) hreports'

theorem enable_sparesOthers (d : Descriptor) : (enable d).SparesOthers d.id numbers := by
  unfold enable
  split
  · exact done_sparesOthers _
  · refine build_bind_sparesOthers (fun e => done_sparesOthers _) fun n => ?_
    exact registerAndStart_bind_sparesOthers List.mem_cons_self fun _ => done_sparesOthers _

theorem rollBack_sparesOthers {old : Descriptor} (hid : old.id = id) (e : HostError) :
    (rollBack id old e).SparesOthers id numbers := by
  refine sparesOthers_bind (quiet_sparesOthers (noteAll_works _)) (noteAll_keepsHost _) fun _ => ?_
  refine sparesOthers_bind (hid ▸ enable_sparesOthers old) (enable_keepsHost old) fun r => ?_
  refine sparesOthers_bind (noteFailure_sparesOthers _ r) (noteFailure_keepsHost _ r) fun _ => ?_
  exact sparesOthers_bind (runHooks_sparesOthers _ _) (runHooks_keepsHost _ _) fun _ =>
    done_sparesOthers _

theorem replaceWith_sparesOthers {d old : Descriptor} (hid : old.id = d.id) :
    (replaceWith d old).SparesOthers d.id numbers := by
  refine build_bind_sparesOthers (fun e => rollBack_sparesOthers hid e) fun n => ?_
  refine registerAndStart_bind_sparesOthers List.mem_cons_self fun r => ?_
  cases r <;> exact sparesOthers_bind (runHooks_sparesOthers _ _) (runHooks_keepsHost _ _) fun _ =>
    done_sparesOthers _

theorem unregister_sparesOthers (id : String) : (unregister id).SparesOthers id numbers := by
  have hw : (unregister id).Works (· = .unregister id) := unregister_works rfl
  exact hw.sparesOthers fun _ d hd => by subst hd; rfl

theorem updateRegistered_sparesOthers {d : Descriptor} {old : Instance} (hid : old.id = d.id)
    (hn : n ∈ numbers) : (updateRegistered d n old).SparesOthers d.id numbers := by
  refine sparesOthers_bind (quiet_sparesOthers (noteAll_works _)) (noteAll_keepsHost _) fun _ => ?_
  refine sparesOthers_bind (quiet_sparesOthers (works_ask _)) (ask_keepsHost _) fun policy => ?_
  refine sparesOthers_bind (drain_sparesOthers hn) (drain_keepsHost n _) fun r => ?_
  cases r with
  | error e =>
    exact sparesOthers_bind (runHooks_sparesOthers _ _) (runHooks_keepsHost _ _) fun _ =>
      done_sparesOthers _
  | ok _ =>
    refine sparesOthers_bind (unregister_sparesOthers d.id) (unregister_keepsHost d.id) fun _ => ?_
    refine sparesOthers_bind (callInstance_sparesOthers hn) (callInstance_keepsHost n _) fun r => ?_
    refine sparesOthers_bind (noteFailure_sparesOthers _ r) (noteFailure_keepsHost _ r) fun _ => ?_
    exact sparesOthers_bind (quiet_sparesOthers (works_sleep _)) (quiet_keepsHost (works_sleep _))
      fun _ => replaceWith_sparesOthers hid

theorem update_sparesOthers (d : Descriptor) : (update d).SparesOthers d.id [] := by
  refine ask_bind_sparesOthers fun t h hs hreports => ?_
  cases hn : h.registry.get? d.id with
  | none => exact enable_sparesOthers d t h hs hreports
  | some n =>
    obtain ⟨old, hi, hid⟩ := hs.reports hn
    simp only [Option.bind_some, hi, Option.map_some]
    exact updateRegistered_sparesOthers hid List.mem_cons_self t h hs
      (List.forall_mem_cons.mpr ⟨⟨old, hi, hid⟩, hreports⟩)

theorem disable_sparesOthers (d : Descriptor) : (disable d).SparesOthers d.id [] := by
  refine ask_bind_sparesOthers fun t h hs hreports => ?_
  cases hn : h.registry.get? d.id with
  | none => exact trivial
  | some n =>
    have hdrain (timeoutMs : Nat) : (drain n timeoutMs).SparesOthers d.id [n] :=
      drain_sparesOthers List.mem_cons_self
    exact sparesOthers_bind (quiet_sparesOthers (works_ask _)) (ask_keepsHost _)
      (fun timeoutMs => sparesOthers_bind (hdrain timeoutMs) (drain_keepsHost n timeoutMs)
        fun _ => done_sparesOthers _) t h hs
      (List.forall_mem_cons.mpr ⟨hs.reports hn, hreports⟩)

theorem remove_sparesOthers (d : Descriptor) : (remove d).SparesOthers d.id [] := by
  refine ask_bind_sparesOthers fun t h hs hreports => ?_
  cases hn : h.registry.get? d.id with
  | none => exact trivial
  | some n =>
    have hmem : n ∈ [n] := List.mem_cons_self
    have htaken : (removeTaken d n).SparesOthers d.id [n] := by
      refine sparesOthers_bind (callInstance_sparesOthers hmem) (callInstance_keepsHost n _)
        fun r => ?_
      refine sparesOthers_bind (noteFailure_sparesOthers _ r) (noteFailure_keepsHost _ r)
        fun _ => ?_
      exact sparesOthers_bind (runHooks_sparesOthers _ _) (runHooks_keepsHost _ _) fun _ =>
        done_sparesOthers _
    have hall : h.ReportAll d.id [n] := List.forall_mem_cons.mpr ⟨hs.reports hn, hreports⟩
    refine sparesOthers_bind (quiet_sparesOthers (works_ask _)) (ask_keepsHost _)
      (fun timeoutMs => ?_) t h hs hall
    refine sparesOthers_bind (drain_sparesOthers hmem) (drain_keepsHost n timeoutMs) fun r => ?_
    refine sparesOthers_bind (noteFailure_sparesOthers _ r) (noteFailure_keepsHost _ r) fun _ => ?_
    exact sparesOthers_bind (unregister_sparesOthers d.id) (unregister_keepsHost d.id) fun _ =>
      htaken

/-- Handling an event leaves alone what is about other ids. -/
theorem handle_sparesOthers (e : Event) : (handle e).SparesOthers e.id [] := by
  unfold handle
  split
  · exact enable_sparesOthers _
  · exact disable_sparesOthers _
  · exact update_sparesOthers _
  · exact remove_sparesOthers _

/-- Whatever the others do meanwhile, each step of an event leaves alone what is about
other ids. -/
theorem handle_own_sparesOthers {e : Event} {q : HostProgram (Except HostError Unit)}
    {steps : List (Step Host)} (hrun : (handle e).Run Host.Later t h steps q u h')
    (hs : h.Sound) : ∀ x ∈ steps, x.own = true → x.before.SparesOthers e.id x.after := by
  have hc : Covers Host.Later Host.Later := ⟨.refl, .trans, fun hl => hl⟩
  exact (hrun.sound hc (handle_sparesOthers e t h hs nofun)).1

/-- Undisturbed, an event as a whole leaves alone what is about other ids. -/
theorem handle_run_sparesOthers {e : Event} {q : HostProgram (Except HostError Unit)}
    {steps : List (Step Host)} (hrun : (handle e).Run Undisturbed t h steps q u h')
    (hs : h.Sound) : h.SparesOthers e.id h' := by
  have hown := handle_own_sparesOthers (hrun.mono fun _ _ => False.elim) hs
  exact hrun.chain (.refl e.id) .trans fun x hx => hown x hx (hrun.own x hx)

end ExtensionHost
