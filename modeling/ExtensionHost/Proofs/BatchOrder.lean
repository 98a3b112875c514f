import ExtensionHost.Proofs.ListingOrder
import ExtensionHost.Proofs.Seen

/-!
# The order of a batch

An event comes to the same whatever has been done about other ids before it: what an instance
answers may depend on the calls that it has had, and what a constructor makes on those that
were invoked for the id, but on nothing about other ids. So a batch with one event for each id
comes to the same in every order, and it is enough to try each of its events by itself. Only
where foreign code breaks down does the order matter, as the events behind are not handled.
-/

namespace ExtensionHost

open Program

variable {t u : Nat} {h h' k k' : Host} {e : Event} {id : String}
variable {events events' : List Event} {r : BatchResult}

/-! ## A batch -/

/-- Runs of events on a host, of each by itself. -/
structure Trials (h : Host) where
  outcome : Event → Except String (Except HostError Unit)
  after : Event → Host
  ends : ∀ e, ∃ t u, (handle e).Ends t h (outcome e) u (after e)

theorem Trials.exist (h : Host) : Nonempty (Trials h) := by
  choose outcome hends using fun e => (handle_works e).timed.alone_ends 0 h
  exact ⟨outcome, _, fun e => ⟨0, _, hends e⟩⟩

namespace Trials

variable {T : Trials h}

/-- What is recorded of an event, if it has not broken down. -/
def record (T : Trials h) (r : BatchResult) (e : Event) : BatchResult :=
  match T.outcome e with
  | .ok outcome => r.record e.id HostError.message outcome
  | .error _ => r

/-- What a batch comes to if every event comes to what it has come to by itself. -/
def result (T : Trials h) (events : List Event) (r : BatchResult) : BatchResult :=
  events.foldl T.record r

/-- From one host to another, what the events have come to by themselves has come about,
and nothing about other ids. -/
structure ComeTrue (T : Trials h) (events : List Event) (k k' : Host) : Prop where
  outcome : ∀ e ∈ events, ∃ outcome, T.outcome e = .ok outcome
  view : ∀ e ∈ events, (T.after e).view e.id = k'.view e.id
  since : ∀ e ∈ events, (T.after e).sinceUnder h e.id = k'.sinceUnder k e.id
  others : ∀ id, (∀ e ∈ events, e.id ≠ id) → k'.view id = k.view id ∧ k'.sinceUnder k id = []

end Trials

/-- A batch goes on after an event, unless that breaks down. -/
theorem handleEach_cons_cases {rest : List Event} {o : Except String BatchResult}
    (hends : (handleEach (e :: rest) r).Ends t h o u h') :
    (∃ message, o = .error message ∧ (handle e).Ends t h (.error message) u h') ∨
    ∃ outcome t₁ h₁ notices, (handle e).Ends t h (.ok outcome) t₁ h₁ ∧
      (handleEach rest (r.record e.id HostError.message outcome)).Ends t₁ (h₁.notice notices)
        o u h' := by
  rcases ends_bind.mp hends with ⟨outcome, t₁, h₁, hhandle, hrest⟩ | ⟨message, rfl, hhandle⟩
  · refine .inr ⟨outcome, t₁, h₁, ?_⟩
    cases outcome with
    | ok _ => exact ⟨[], hhandle, hrest⟩
    | error failure => exact ⟨_, hhandle, ends_act.mp hrest⟩
  · exact .inl ⟨message, rfl, hhandle⟩

/-- From one host to another, what the event has come to by itself has come about, and nothing
else has happened. -/
structure Trials.FirstTrue (T : Trials h) (e : Event) (k k' : Host) : Prop where
  view : (T.after e).view e.id = k'.view e.id
  since : (T.after e).sinceUnder h e.id = k'.sinceUnder k e.id
  spared : ∀ {id}, id ≠ e.id → k'.view id = k.view id
  grew : k.Grew k'
  about : ∀ w ∈ k'.since k, k'.idOf? w = some e.id

/-- What is noticed after an event makes no difference. -/
theorem Trials.FirstTrue.notice {T : Trials h} (hfirst : T.FirstTrue e k k')
    (notices : List Notice) : T.FirstTrue e k (k'.notice notices) :=
  ⟨hfirst.view, hfirst.since, hfirst.spared,
    ⟨hfirst.grew.setup, hfirst.grew.instances, hfirst.grew.past⟩, hfirst.about⟩

/-- An event, and then the rest of a batch. -/
theorem Trials.FirstTrue.cons {T : Trials h} {rest : List Event} {k₁ : Host}
    (hfirst : T.FirstTrue e k k₁) (houtcome : ∃ outcome, T.outcome e = .ok outcome)
    (hrest : T.ComeTrue rest k₁ k') (hgrew : k₁.Grew k') (hne : ∀ e' ∈ rest, e'.id ≠ e.id) :
    T.ComeTrue (e :: rest) k k' := by
  -- What happens in the event counts for its id, and the rest does nothing about that one.
  have hsplit (id : String) : k'.sinceUnder k id =
      (if e.id = id then k₁.sinceUnder k id else []) ++ k'.sinceUnder k₁ id :=
    Host.sinceUnder_of_about hfirst.grew hgrew hfirst.about
  obtain ⟨hview, hnone⟩ := hrest.others e.id hne
  refine ⟨?_, ?_, ?_, fun id hothers => ?_⟩
  · exact List.forall_mem_cons.mpr ⟨houtcome, hrest.outcome⟩
  · exact List.forall_mem_cons.mpr ⟨hfirst.view.trans hview.symm, hrest.view⟩
  · refine List.forall_mem_cons.mpr ⟨?_, fun e' he' => ?_⟩
    · rw [hsplit, if_pos rfl, hnone, List.append_nil, hfirst.since]
    · rw [hsplit, if_neg (hne e' he').symm, List.nil_append, hrest.since e' he']
  · obtain ⟨hother, hothers⟩ := List.forall_mem_cons.mp hothers
    obtain ⟨hview, hnone⟩ := hrest.others id hothers
    refine ⟨hview.trans (hfirst.spared hother.symm), ?_⟩
    rw [hsplit, if_neg hother, List.nil_append, hnone]

/-- An event comes to what it has come to by itself, where the same is seen under its id. -/
theorem handle_asTried (T : Trials h) {o : Except String (Except HostError Unit)} (hs : h.Sound)
    (ks : k.Sound) (hS : h.setup.Like k.setup) (hv : h.view e.id = k.view e.id)
    (hends : (handle e).Ends t k o u k') :
    BothEnd (fun a b => a = b ∧ T.FirstTrue e k k') True (T.outcome e) o := by
  obtain ⟨t₀, u₀, htrial⟩ := T.ends e
  have hsound : k'.Sound := handle_ends_sound ks hends
  have hgrew := (handle_works e).ends_grew hends
  have habout := handle_ends_about ks hends
  have hspared {id : String} (hne : id ≠ e.id) : k'.view id = k.view id :=
    (handle_ends_sameUnder ks hne hends).view (Host.invocations_of_about hgrew habout hne) ks
      hsound
  refine (handle_agrees hs ks hS hv htrial hends).mono (fun hab => ?_) id
  exact ⟨hab.1, hab.2.1, hab.2.2, hspared, hgrew, habout⟩

/-- On a host on which the same is seen under their ids, the events of a batch come to what
they have come to by themselves. If one of them breaks down, the batch does. -/
theorem handleEach_asTried (T : Trials h) {o : Except String BatchResult} (hs : h.Sound)
    (ks : k.Sound) (hS : h.setup.Like k.setup) (hids : (events.map Event.id).Nodup)
    (hv : ∀ e ∈ events, h.view e.id = k.view e.id)
    (hends : (handleEach events r).Ends t k o u k') :
    (∃ e ∈ events, ∃ message, T.outcome e = .error message) ∧ (∃ message, o = .error message) ∨
      T.ComeTrue events k k' ∧ o = .ok (T.result events r) := by
  induction events generalizing k t r with
  | nil =>
    obtain ⟨rfl, -, rfl⟩ := ends_done.mp hends
    refine .inr ⟨⟨nofun, nofun, nofun, fun id _ => ⟨rfl, ?_⟩⟩, rfl⟩
    simp [Host.sinceUnder, Host.since]
  | cons e rest ih =>
    obtain ⟨hid, hrestids⟩ := List.nodup_cons.mp hids
    obtain ⟨hve, hvrest⟩ := List.forall_mem_cons.mp hv
    have hne : ∀ e' ∈ rest, e'.id ≠ e.id := fun e' he' heq =>
      hid (heq ▸ List.mem_map_of_mem he')
    rcases handleEach_cons_cases hends with ⟨message, rfl, hhandle⟩ | ⟨outcome, t₁, k₁, notices,
      hhandle, hrest⟩
    · have htried := handle_asTried T hs ks hS hve hhandle
      generalize hT : T.outcome e = tried at htried
      cases htried with
      | broken _ => exact .inl ⟨⟨e, List.mem_cons_self, _, hT⟩, message, rfl⟩
    · have htried := handle_asTried T hs ks hS hve hhandle
      generalize hT : T.outcome e = tried at htried
      cases htried with
      | values hab =>
        obtain ⟨rfl, hfirst⟩ := hab
        -- The rest starts where the event has ended, and its failure has been noticed.
        have hfirst := hfirst.notice notices
        have hnoticed : k₁.Later (k₁.notice notices) := .of_eq rfl rfl
        have hsound : (k₁.notice notices).Sound := hnoticed.sound (handle_ends_sound ks hhandle)
        have hS₁ : h.setup.Like (k₁.notice notices).setup := hfirst.grew.setup ▸ hS
        have hv₁ : ∀ e' ∈ rest, h.view e'.id = (k₁.notice notices).view e'.id := fun e' he' =>
          (hvrest e' he').trans (hfirst.spared (hne e' he')).symm
        rcases ih hsound hS₁ hrestids hv₁ hrest with ⟨⟨e', he', hbroke⟩, ho⟩ | ⟨htrue, rfl⟩
        · exact .inl ⟨⟨e', List.mem_cons_of_mem e he', hbroke⟩, ho⟩
        · have hgrew := (handleEach_works rest _).ends_grew hrest
          refine .inr ⟨hfirst.cons ⟨_, hT⟩ htrue hgrew hne, ?_⟩
          simp [Trials.result, Trials.record, hT]

/-! ## Results in any order -/

theorem insertText_comm (s s' : String) (texts : List String) :
    insertText s (insertText s' texts) = insertText s' (insertText s texts) := by
  induction texts with
  | nil => grind [insertText]
  | cons x xs ih => grind [insertText]

theorem insertEntry_comm {β : Type} {key key' : String} (hne : key ≠ key') (value value' : β)
    (table : List (String × β)) :
    insertEntry key value (insertEntry key' value' table) =
      insertEntry key' value' (insertEntry key value table) := by
  induction table with
  | nil => grind [insertEntry]
  | cons x xs ih => grind [insertEntry]

/-- The id has not been recorded. -/
structure BatchResult.Lacks (r : BatchResult) (id : String) : Prop where
  succeeded : id ∉ r.succeeded
  failed : id ∉ r.failed
  reasons : ∀ entry ∈ r.reasons, entry.1 ≠ id

namespace BatchResult

theorem lacks_empty (id : String) : empty.Lacks id :=
  ⟨List.not_mem_nil, List.not_mem_nil, nofun⟩

variable {outcome outcome' : Except HostError Unit} {id' : String}

theorem Lacks.record_ok (hr : r.Lacks id) (a : Unit) :
    r.record id HostError.message (.ok a) = { r with succeeded := insertText id r.succeeded } := by
  have hfailed : eraseText id r.failed = r.failed :=
    List.filter_eq_self.mpr fun x hx => decide_eq_true fun heq => hr.failed (heq ▸ hx)
  have hreasons : eraseEntry id r.reasons = r.reasons :=
    List.filter_eq_self.mpr fun x hx => decide_eq_true (hr.reasons x hx)
  rw [record, recordSuccess, hfailed, hreasons]

theorem Lacks.record_error (hr : r.Lacks id) (failure : HostError) :
    r.record id HostError.message (.error failure) =
      { r with
        failed := insertText id r.failed
        reasons := insertEntry id failure.message r.reasons } := by
  have hsucceeded : eraseText id r.succeeded = r.succeeded :=
    List.filter_eq_self.mpr fun x hx => decide_eq_true fun heq => hr.succeeded (heq ▸ hx)
  rw [record, recordFailure, hsucceeded]

theorem Lacks.record (hr : r.Lacks id) (hr' : r.Lacks id') (hne : id ≠ id') :
    (r.record id' HostError.message outcome).Lacks id := by
  cases outcome with
  | ok a =>
    rw [hr'.record_ok]
    exact ⟨by simp [hne, hr.succeeded], hr.failed, hr.reasons⟩
  | error failure =>
    rw [hr'.record_error]
    refine ⟨hr.succeeded, by simp [hne, hr.failed], fun entry hmem => ?_⟩
    rcases mem_insertEntry hmem with rfl | hmem
    · exact hne.symm
    · exact hr.reasons entry hmem

/-- What two ids have come to may be recorded in either order. -/
theorem record_comm (hr : r.Lacks id) (hr' : r.Lacks id') (hne : id ≠ id') :
    (r.record id HostError.message outcome).record id' HostError.message outcome' =
      (r.record id' HostError.message outcome').record id HostError.message outcome := by
  have hlacks : (r.record id' HostError.message outcome').Lacks id := hr.record hr' hne
  have hlacks' : (r.record id HostError.message outcome).Lacks id' := hr'.record hr hne.symm
  cases outcome with
  | ok a =>
    rw [hr.record_ok] at hlacks' ⊢
    cases outcome' with
    | ok b =>
      rw [hr'.record_ok] at hlacks ⊢
      rw [hlacks.record_ok, hlacks'.record_ok, insertText_comm]
    | error failure =>
      rw [hr'.record_error] at hlacks ⊢
      rw [hlacks.record_ok, hlacks'.record_error]
  | error failure =>
    rw [hr.record_error] at hlacks' ⊢
    cases outcome' with
    | ok b =>
      rw [hr'.record_ok] at hlacks ⊢
      rw [hlacks.record_error, hlacks'.record_ok]
    | error failure' =>
      rw [hr'.record_error] at hlacks ⊢
      rw [hlacks.record_error, hlacks'.record_error, insertText_comm, insertEntry_comm hne.symm]

end BatchResult

theorem Trials.record_lacks (T : Trials h) (hr : r.Lacks id) (he : r.Lacks e.id)
    (hne : id ≠ e.id) : (T.record r e).Lacks id := by
  unfold record
  split
  · exact hr.record he hne
  · exact hr

theorem Trials.record_comm (T : Trials h) {e' : Event} (hr : r.Lacks e.id) (hr' : r.Lacks e'.id)
    (hne : e.id ≠ e'.id) : T.record (T.record r e) e' = T.record (T.record r e') e := by
  unfold record
  cases T.outcome e <;> cases T.outcome e'
  · rfl
  · rfl
  · rfl
  · exact BatchResult.record_comm hr hr' hne

/-- With one event for each id, a batch comes to the same result in every order. -/
theorem Trials.result_perm (T : Trials h) (hperm : events.Perm events')
    (hids : (events.map Event.id).Nodup) (hr : ∀ e ∈ events, r.Lacks e.id) :
    T.result events r = T.result events' r := by
  induction hperm generalizing r with
  | nil => rfl
  | @cons e rest rest' _ ih =>
    obtain ⟨hid, hrest⟩ := List.nodup_cons.mp hids
    obtain ⟨he, hr⟩ := List.forall_mem_cons.mp hr
    refine ih hrest fun e' he' => T.record_lacks (hr e' he') he fun heq => ?_
    exact hid (heq ▸ List.mem_map_of_mem he')
  | swap e e' rest =>
    have hne : e'.id ≠ e.id := fun heq => by simp [heq] at hids
    have hlacks' : r.Lacks e'.id := hr e' (by simp)
    have hlacks : r.Lacks e.id := hr e (by simp)
    exact congrArg (T.result rest) (T.record_comm hlacks' hlacks hne)
  | trans hperm _ ih ih' =>
    have hids' := ((hperm.map Event.id).nodup_iff).mp hids
    exact (ih hids hr).trans (ih' hids' fun e he => hr e (hperm.mem_iff.mpr he))

/-! ## A batch in any order -/

/-- Hosts on which the same is seen under every id, and on which the same has happened about
every id since earlier states. -/
def Host.SameSince (h k h' k' : Host) : Prop :=
  ∀ id, h'.view id = k'.view id ∧ h'.sinceUnder h id = k'.sinceUnder k id

/-- Where the same events have come about, the same is seen and has happened. -/
theorem Trials.ComeTrue.sameSince {T : Trials h} (htrue : T.ComeTrue events h h')
    (htrue' : T.ComeTrue events' k k') (hmem : ∀ e, e ∈ events ↔ e ∈ events')
    (hv : ∀ id, h.view id = k.view id) : Host.SameSince h k h' k' := by
  intro id
  by_cases hid : ∃ e ∈ events, e.id = id
  · obtain ⟨e, he, rfl⟩ := hid
    have he' := (hmem e).mp he
    exact ⟨(htrue.view e he).symm.trans (htrue'.view e he'),
      (htrue.since e he).symm.trans (htrue'.since e he')⟩
  · have hothers : ∀ e ∈ events, e.id ≠ id := fun e he heq => hid ⟨e, he, heq⟩
    obtain ⟨hview, hsince⟩ := htrue.others id hothers
    obtain ⟨hview', hsince'⟩ := htrue'.others id fun e he => hothers e ((hmem e).mpr he)
    exact ⟨(hview.trans (hv id)).trans hview'.symm, hsince.trans hsince'.symm⟩

/-- With one event for each id, a batch comes to the same in every order. -/
theorem handleBatch_agrees (hs : h.Sound) (ks : k.Sound) (hS : h.setup.Like k.setup)
    (hv : ∀ id, h.view id = k.view id) (hperm : events.Perm events')
    (hids : (events.map Event.id).Nodup) : Agree (handleBatch events) (handleBatch events') h k
      (fun a b h' k' => a = b ∧ Host.SameSince h k h' k') fun _ _ => True := by
  intro t o u h' t' o' u' k' hends hends'
  -- Both orders are compared with the same trials, so they break down together.
  obtain ⟨T⟩ := Trials.exist h
  have hids' := ((hperm.map Event.id).nodup_iff).mp hids
  have hfirst := handleEach_asTried T hs hs (.refl _) hids (fun _ _ => rfl) hends
  have hsecond := handleEach_asTried T hs ks hS hids' (fun e _ => hv e.id) hends'
  rcases hfirst with ⟨⟨e, he, message, hbroke⟩, m, rfl⟩ | ⟨htrue, rfl⟩
  · rcases hsecond with ⟨-, m', rfl⟩ | ⟨htrue', -⟩
    · exact .broken trivial
    · obtain ⟨outcome, hno⟩ := htrue'.outcome e (hperm.mem_iff.mp he)
      cases hbroke.symm.trans hno
  · rcases hsecond with ⟨⟨e, he, message, hbroke⟩, -⟩ | ⟨htrue', rfl⟩
    · obtain ⟨outcome, hno⟩ := htrue.outcome e (hperm.mem_iff.mpr he)
      cases hbroke.symm.trans hno
    · have hresult := T.result_perm hperm hids fun e _ => BatchResult.lacks_empty e.id
      exact .values ⟨hresult, htrue.sameSince htrue' (fun _ => hperm.mem_iff) hv⟩

/-! ## Starting a host -/

theorem Host.Noticed.view (hn : h.Noticed h') : h'.view id = h.view id := by
  have hinstance : h'.instance? = h.instance? := by
    funext n
    rw [instance?, hn.instances, instance?]
  have hloaded : h'.loadedVersion = h.loadedVersion := by
    funext i
    rw [loadedVersion, hn.registry, loadedVersion]
  unfold Host.view record?
  rw [hinstance, hloaded, hn.registry, invocations_eq, hn.past, ← invocations_eq]

theorem Host.Noticed.sinceUnder {g : Host} (hn : h.Noticed h') :
    h'.sinceUnder g id = h.sinceUnder g id := by
  have hidOf : h'.idOf? = h.idOf? := by
    funext w
    cases w <;> simp [idOf?, instance?, hn.instances]
  unfold Host.sinceUnder since
  rw [hidOf, hn.past]

/-- What comes of starting the watch. Its task may get any number. -/
theorem startWatch_ends_iff {o : Except String Unit} : startWatch.Ends t h o u h' ↔
    o = .ok () ∧ u = t ∧
      if h.settings.policy.hotReloadIntervalMs = 0 then h' = h.notice [.watchIntervalZero]
      else if h.watch.running then h' = h
      else ∃ number, h' = { h with watch := ⟨true, h.watch.told, some number⟩ } := by
  unfold startWatch
  simp only [bind_eq, ends_ask_bind]
  split
  · exact ends_change
  split
  · exact ends_done
  · refine ends_act.trans (ends_spawn.trans ?_)
    simp only [ends_change, exists_and_left]

/-- Starting the watch changes nothing that is seen. -/
theorem startWatch_noticed {o : Except String Unit} (hends : startWatch.Ends t h o u h') :
    o = .ok () ∧ h.Noticed h' := by
  obtain ⟨rfl, -, hstarted⟩ := startWatch_ends_iff.mp hends
  refine ⟨rfl, ?_⟩
  split at hstarted
  · exact hstarted ▸ ⟨rfl, rfl, rfl, rfl⟩
  split at hstarted
  · exact hstarted ▸ .refl h
  · obtain ⟨number, rfl⟩ := hstarted
    exact ⟨rfl, rfl, rfl, rfl⟩

theorem startWatch_ends (t : Nat) (h : Host) : ∃ h', startWatch.Ends t h (.ok ()) t h' := by
  simp only [startWatch_ends_iff, true_and]
  split
  · exact ⟨_, rfl⟩
  split
  · exact ⟨_, rfl⟩
  · exact ⟨_, 0, rfl⟩

/-- What a start does after the batch of what was scanned. -/
def startWanted (result : BatchResult) : HostProgram BatchResult := do
  let wanted ← Program.ask (·.settings.policy.hotReload)
  if wanted then startWatch else .done ()
  return result

theorem startWanted_noticed {result : BatchResult} {o : Except String BatchResult}
    (hends : (startWanted result).Ends t h o u h') : o = .ok result ∧ h.Noticed h' := by
  unfold startWanted at hends
  rw [bind_eq, ends_ask_bind] at hends
  split at hends
  · rcases ends_bind.mp hends with ⟨_, t₁, h₁, hwatch, hdone⟩ | ⟨message, rfl, hwatch⟩
    · obtain ⟨rfl, -, rfl⟩ := ends_done.mp hdone
      exact ⟨rfl, (startWatch_noticed hwatch).2⟩
    · cases (startWatch_noticed hwatch).1
  · obtain ⟨rfl, -, rfl⟩ := ends_done.mp hends
    exact ⟨rfl, .refl _⟩

theorem startWanted_ends (result : BatchResult) (t : Nat) (h : Host) :
    ∃ h', (startWanted result).Ends t h (.ok result) t h' := by
  unfold startWanted
  simp only [bind_eq, ends_ask_bind]
  split
  · obtain ⟨h', hwatch⟩ := startWatch_ends t h
    exact ⟨h', ends_bind.mpr (.inl ⟨(), t, h', hwatch, ends_done.mpr ⟨rfl, rfl, rfl⟩⟩)⟩
  · exact ⟨h, ends_done.mpr ⟨rfl, rfl, rfl⟩⟩

/-- The host after a scan. -/
def Host.afterScan (h : Host) : Host :=
  h.notice (h.settings.layout.scan h.files).2

theorem Host.Sound.afterScan (hs : h.Sound) : h.afterScan.Sound := by
  have hlater : h.Later h.afterScan := .of_eq rfl rfl
  exact hlater.sound hs

theorem startHost_ends_iff {o : Except String BatchResult} : startHost.Ends t h o u h' ↔
    ((handleBatch h.scanned).bind startWanted).Ends t h.afterScan o u h' :=
  ends_act

/-- A start comes to an end if every call of foreign code returns or breaks down. -/
theorem startHost_ends (t : Nat) (h : Host) : ∃ o u h', startHost.Ends t h o u h' := by
  simp only [startHost_ends_iff, ends_bind]
  obtain ⟨o, u, h', hbatch⟩ := handleBatch_ends h.scanned t h.afterScan
  cases o with
  | ok result =>
    obtain ⟨h'', hwanted⟩ := startWanted_ends result u h'
    exact ⟨_, u, h'', .inl ⟨result, u, h', hbatch, hwanted⟩⟩
  | error message => exact ⟨_, u, h', .inr ⟨message, rfl, hbatch⟩⟩

/-- A start comes to the same, whatever order folders are listed in. -/
theorem startHost_agrees {tree : FileTree} (hs : h.Sound) (htree : h.files.SameEntries tree)
    (hnamed : h.files.IsNamed) : Agree startHost startHost h (h.onFiles tree)
      (fun result result' h' k' => result = result' ∧ Host.SameSince h (h.onFiles tree) h' k')
      fun _ _ => True := by
  have hs' : (h.onFiles tree).Sound := ⟨hs.reports, hs.not_blank⟩
  have hperm : h.scanned.Perm (h.onFiles tree).scanned := FolderLayout.scan_perm htree
  have hids : (h.scanned.map Event.id).Nodup := FolderLayout.scan_ids_nodup htree.placed hnamed
  have hbatch := handleBatch_agrees hs.afterScan hs'.afterScan (Host.onFiles_setup htree)
    (fun _ => rfl) hperm hids
  have hwanted {result result' : BatchResult} {h₁ k₁ : Host}
      (hab : result = result' ∧ Host.SameSince h.afterScan (h.onFiles tree).afterScan h₁ k₁) :
      Agree (startWanted result) (startWanted result') h₁ k₁
        (fun a b h' k' => a = b ∧ Host.SameSince h (h.onFiles tree) h' k') fun _ _ => True := by
    obtain ⟨rfl, hsame⟩ := hab
    intro t o u h' t' o' u' k' hends hends'
    obtain ⟨rfl, hnoticed⟩ := startWanted_noticed hends
    obtain ⟨rfl, hnoticed'⟩ := startWanted_noticed hends'
    refine .values ⟨rfl, fun id => ?_⟩
    rw [hnoticed.view, hnoticed'.view, hnoticed.sinceUnder, hnoticed'.sinceUnder]
    exact hsame id
  intro t o u h' t' o' u' k' hends hends'
  exact agree_bind hbatch hwanted (startHost_ends_iff.mp hends) (startHost_ends_iff.mp hends')

/-! ## The order is irrelevant -/

/-- Where everything is registered under the id it reports, a batch with one event for each id
comes to an end in every order, if every call of foreign code returns or breaks down. It breaks
down in one order if and only if it does in every other; if it does not, then its result is the
same in every order, and so is, for every id, what is seen under it afterwards and what has
happened about it. All that happens while an event is handled is about its id, nothing that is
seen under another id changes, and everything is still registered under the id it reports. So a
start comes to the same in whatever order folders are listed. -/
theorem batch_in_any_order (hs : h.Sound) (hperm : events.Perm events')
    (hids : (events.map Event.id).Nodup) :
    (∀ t, (∃ o u h', (handleBatch events).Ends t h o u h') ∧
      ∃ o u h', (handleBatch events').Ends t h o u h') ∧
    Agree (handleBatch events) (handleBatch events') h h
      (fun result result' h₁ h₂ => result = result' ∧ ∀ id, h₁.view id = h₂.view id ∧
        h₁.sinceUnder h id = h₂.sinceUnder h id) (fun _ _ => True) ∧
    (∀ e t o u h', (handle e).Ends t h o u h' → h'.Sound ∧
      (∀ w ∈ h'.since h, h'.idOf? w = some e.id) ∧ ∀ id, id ≠ e.id → h.SameUnder id h') ∧
    ∀ tree, h.files.SameEntries tree → h.files.IsNamed →
      (∀ t, (∃ o u h', startHost.Ends t h o u h') ∧
        ∃ o u h', startHost.Ends t (h.onFiles tree) o u h') ∧
      Agree startHost startHost h (h.onFiles tree)
        (fun result result' h₁ h₂ => result = result' ∧ ∀ id, h₁.view id = h₂.view id ∧
          h₁.sinceUnder h id = h₂.sinceUnder (h.onFiles tree) id) fun _ _ => True := by
  refine ⟨fun t => ⟨handleBatch_ends events t h, handleBatch_ends events' t h⟩,
    handleBatch_agrees hs hs (.refl _) (fun _ => rfl) hperm hids, ?_, ?_⟩
  · intro e t o u h' hends
    exact ⟨handle_ends_sound hs hends, handle_ends_about hs hends,
      fun id hne => handle_ends_sameUnder hs hne hends⟩
  · intro tree htree hnamed
    exact ⟨fun t => ⟨startHost_ends t h, startHost_ends t (h.onFiles tree)⟩,
      startHost_agrees hs htree hnamed⟩

/-- Two new extensions on disk. -/
private def twoFolders : Host :=
  let manifest (id : String) := "id: " ++ id ++ "\nversion: 2.0.0\nentry_point: e\n"
  ((Host.serving LifecyclePolicy.default (.uniform "e" .idle .zero) ["a", "b"]).describing "a"
    (manifest "a")).describing "b" (manifest "b")

/-- Two events for different ids. -/
private def enableBoth : List Event :=
  [.of .enable (.at "e" "a"), .of .enable (.at "e" "b")]

/-- Two extensions can be enabled in either order, and a host with both of them on disk can be
started with their folders listed in either. -/
theorem enabled_in_any_order :
    let both := (BatchResult.empty.recordSuccess "a").recordSuccess "b"
    let backwards := twoFolders.files.backwards
    (∃ u h₁ u' h₂, (handleBatch enableBoth).Ends 7 twoFolders (.ok both) u h₁ ∧
      (handleBatch enableBoth.reverse).Ends 7 twoFolders (.ok both) u' h₂ ∧
      ∀ id, h₁.view id = h₂.view id) ∧
    ∃ u h₁ u' h₂, startHost.Ends 7 twoFolders (.ok both) u h₁ ∧
      startHost.Ends 7 (twoFolders.onFiles backwards) (.ok both) u' h₂ ∧
      ∀ id, h₁.view id = h₂.view id := by
  intro both backwards
  have hs : twoFolders.Sound := Host.sound_of_empty rfl
  have hids : (enableBoth.map Event.id).Nodup := by decide
  have hplaced : twoFolders.files.IsPlaced := by decide +kernel
  have hnamed : twoFolders.files.IsNamed := by decide +kernel
  have hrun : ((handleBatch enableBoth).alone 7 twoFolders).2.1.value? = some both := by
    decide +kernel
  have hstart : (startHost.alone 7 twoFolders).2.1.value? = some both := by decide +kernel
  obtain ⟨hbatches, hbatch, -, hany⟩ :=
    batch_in_any_order hs (List.reverse_perm enableBoth).symm hids
  obtain ⟨hstarts, hagree⟩ := hany backwards hplaced.sameEntries_backwards hnamed
  obtain ⟨o, u, h₂, hsecond⟩ := (hbatches 7).2
  obtain ⟨o', u', k₂, hsecond'⟩ := (hstarts 7).2
  constructor
  · cases hbatch (ends_of_value? hrun) hsecond with
    | values hsame =>
      obtain ⟨rfl, hsame⟩ := hsame
      exact ⟨_, _, _, _, ends_of_value? hrun, hsecond, fun id => (hsame id).1⟩
  · cases hagree (ends_of_value? hstart) hsecond' with
    | values hsame =>
      obtain ⟨rfl, hsame⟩ := hsame
      exact ⟨_, _, _, _, ends_of_value? hstart, hsecond', fun id => (hsame id).1⟩

/-- A host with an extension on disk that breaks down when it is started, and with another one
registered. -/
private def breaking : Host :=
  let conduct := { Conduct.idle with
    respond := fun call _ => ⟨0, if call = .start then .brokeDown "start" else .succeeded⟩ }
  { Host.serving LifecyclePolicy.default (.uniform "e" conduct .zero) ["a"] with
    instances := [.ofBlueprint ⟨.at "e" "b", true, conduct, .zero⟩ none]
    registry := Registry.empty.insert "b" 0 none }

/-- A host with instances of one extension registered under its id and under another one. -/
private def crossed : Host :=
  let instance₀ := Instance.ofBlueprint ⟨.at "e" "b", true, Conduct.idle, .zero⟩ none
  { Host.serving LifecyclePolicy.default (.uniform "e" .idle .zero) [] with
    instances := [instance₀, instance₀]
    registry := (Registry.empty.insert "a" 0 none).insert "b" 1 none }

/-- If an event breaks down, then what is registered afterwards depends on the order. And an
event calls what is registered under another id, if its own id is registered for an instance
that reports that one. -/
theorem batch_order_can_matter :
    let enable : Event := .of .enable (.at "e" "a")
    let remove : Event := .of .remove (.at "e" "b")
    (∃ message u h₁, (handleBatch [enable, remove]).Ends 7 breaking (.error message) u h₁ ∧
      (h₁.record? "b").isSome) ∧
    (∃ message u h₂, (handleBatch [remove, enable]).Ends 7 breaking (.error message) u h₂ ∧
      (h₂.record? "b").isNone) ∧
    ∃ u h', (handleBatch [.of .remove (.at "e" "a")]).Ends 7 crossed
        (.ok (BatchResult.empty.recordSuccess "a")) u h' ∧
      crossed.registry.get? "b" = some 1 ∧ .called 1 .stop ∈ h'.since crossed := by
  intro enable remove
  have hfirst : ((handleBatch [enable, remove]).alone 7 breaking).2.1.message? = some "start" := by
    decide +kernel
  have hsecond : ((handleBatch [remove, enable]).alone 7 breaking).2.1.message? = some "start" := by
    decide +kernel
  have hcrossed : ((handleBatch [.of .remove (.at "e" "a")]).alone 7 crossed).2.1.value? =
      some (BatchResult.empty.recordSuccess "a") := by decide +kernel
  exact ⟨⟨_, _, _, ends_of_message? hfirst, by decide +kernel⟩,
    ⟨_, _, _, ends_of_message? hsecond, by decide +kernel⟩,
    _, _, ends_of_value? hcrossed, by decide, by decide +kernel⟩

end ExtensionHost
