import ExtensionHost.Proofs.Convergence
import ExtensionHost.Proofs.Departure
import ExtensionHost.Proofs.Matching

/-!
# What is seen under an id

All that can be seen of a host under an id is what is registered there, the context that is
kept, the constructors that have been invoked and what has happened about the id. An event
comes to the same, and looks the same afterwards, wherever the same is seen under its id, and
nothing that happens meanwhile is about another.
-/

namespace ExtensionHost

open Program

variable {t u : Nat} {h h' k k' : Host} {i j : Instance} {e : Event} {id : String}
variable {c : TwoRuns} {ns : List (Nat × Nat)}

/-! ## Views -/

/-- What is seen of a host under an id: the instance that is registered, but for when it was
first disabled, the context that is kept, the version that counts as loaded, and the
constructors that have been invoked, which may tell what further ones come to. -/
structure View where
  record : Option Instance
  context : Option Context
  loadedVersion : Option String
  invocations : List Invocation

/-- What is seen of a host under an id. -/
def Host.view (h : Host) (id : String) : View where
  record := (h.record? id).map Instance.shown
  context := h.registry.context? id
  loadedVersion := (h.record? id).map h.loadedVersion
  invocations := h.invocations id

/-- What counts as loaded is seen from what is registered and kept. -/
theorem Host.view_eq (hs : h.Sound) (ks : k.Sound)
    (hrecord : (h.record? id).map Instance.shown = (k.record? id).map Instance.shown)
    (hcontext : h.registry.context? id = k.registry.context? id)
    (hinvoked : h.invocations id = k.invocations id) : h.view id = k.view id := by
  have hloaded : (h.record? id).map h.loadedVersion = (k.record? id).map k.loadedVersion := by
    cases hi : h.record? id <;> cases hj : k.record? id <;> rw [hi, hj] at hrecord
    · rfl
    · cases hrecord
    · cases hrecord
    next i j =>
      have hij : i.Like j := Option.some.inj hrecord
      simp [loadedVersion, hs.record?_id hi, ks.record?_id hj, hcontext, hij.descriptor]
  simp only [view, hrecord, hcontext, hloaded, hinvoked]

theorem Host.SameUnder.view (hsame : h.SameUnder id h')
    (hinvoked : h'.invocations id = h.invocations id) (hs : h.Sound) (hs' : h'.Sound) :
    h'.view id = h.view id :=
  Host.view_eq hs' hs (congrArg _ hsame.record) hsame.context hinvoked

/-- What happens about another id invokes nothing for this one. -/
theorem Host.invocations_of_about {id' : String} (hg : h.Grew h')
    (habout : ∀ w ∈ h'.since h, h'.idOf? w = some id') (hne : id ≠ id') :
    h'.invocations id = h.invocations id := by
  obtain ⟨new, hpast⟩ := hg.past
  rw [since_eq hpast] at habout
  have hnone : new.filterMap (Happening.invocationFor? id) = [] := by
    refine List.filterMap_eq_nil_iff.mpr fun w hw => ?_
    cases w with
    | constructed id'' version invocation journaled =>
      obtain rfl : id'' = id' := Option.some.inj (habout _ hw)
      exact if_neg hne.symm
    | _ => rfl
  rw [invocations_of_past hpast, hnone]
  rfl

/-- What has happened about an id since an earlier state, the first thing first, whatever the
numbers of the instances are. -/
def Host.sinceUnder (h' h : Host) (id : String) : List Happening :=
  ((h'.since h).filter fun w => h'.idOf? w = some id).map Happening.unnumbered

theorem filter_idOf?_self {new : List Happening} (hnew : ∀ w ∈ new, h.idOf? w = some id) :
    (new.filter fun w => h.idOf? w = some id) = new :=
  List.filter_eq_self.mpr fun w hw => decide_eq_true (hnew w hw)

/-- Where all that happened first was about one id, it counts for that one only. -/
theorem Host.sinceUnder_of_about {g : Host} {id' : String} (hg : h.Grew h') (hg' : h'.Grew g)
    (habout : ∀ w ∈ h'.since h, h'.idOf? w = some id') : g.sinceUnder h id =
      (if id' = id then h'.sinceUnder h id else []) ++ g.sinceUnder h' id := by
  obtain ⟨new, hpast⟩ := hg.past
  obtain ⟨new', hpast'⟩ := hg'.past
  rw [since_eq hpast] at habout
  have hlater : ∀ w ∈ new, g.idOf? w = some id' := fun w hw =>
    idOf?_later hg'.instances (habout w hw)
  have hboth : g.past = h.past ++ (new ++ new') := by rw [hpast', hpast, List.append_assoc]
  rw [sinceUnder, since_eq hboth, List.filter_append, List.map_append, sinceUnder, sinceUnder,
    since_eq hpast, since_eq hpast']
  congr 1
  split
  next heq =>
    subst heq
    rw [filter_idOf?_self hlater, filter_idOf?_self habout]
  next hne =>
    have hnone : (new.filter fun w => g.idOf? w = some id) = [] :=
      List.filter_eq_nil_iff.mpr fun w hw => by simp [hlater w hw, hne]
    rw [hnone, List.map_nil]

/-! ## One event -/

/-- Two runs from hosts on which the same is seen under an id. -/
def TwoRuns.ofView (h k : Host) (id : String) (hv : h.view id = k.view id) : TwoRuns where
  id := id
  before := h.past
  before' := k.past
  invoked := by
    have hinvoked : h.invocations id = k.invocations id := congrArg View.invocations hv
    rw [Host.invocations_eq, Host.invocations_eq] at hinvoked
    exact List.reverse_injective hinvoked

/-- Sound hosts on which the same is seen under an id are alike for it. -/
theorem Alike.of_view (hs : h.Sound) (ks : k.Sound) (hS : h.setup.Like k.setup)
    (hv : h.view id = k.view id) : Alike (.ofView h k id hv) [] h k := by
  have hrecord : (h.record? id).map Instance.shown = (k.record? id).map Instance.shown :=
    congrArg View.record hv
  have hcontext : h.registry.context? id = k.registry.context? id := congrArg View.context hv
  have hpast : ∃ new new', h.past = h.past ++ new ∧ k.past = k.past ++ new' ∧
      new.map Happening.unnumbered = new'.map Happening.unnumbered ∧
      ∀ w ∈ new', k.idOf? w = some id := ⟨[], [], by simp, by simp, rfl, nofun⟩
  cases hn : h.registry.get? id with
  | none =>
    cases hm : k.registry.get? id with
    | none => exact ⟨[], nofun, hS, by simp [TwoRuns.ofView, hn, hm], hcontext, nofun, nofun, hpast⟩
    | some m =>
      obtain ⟨j, hj, -⟩ := ks.reports hm
      simp [Host.record?, hn, hm, hj] at hrecord
  | some n =>
    obtain ⟨i, hi, hid⟩ := hs.reports hn
    cases hm : k.registry.get? id with
    | none => simp [Host.record?, hn, hm, hi] at hrecord
    | some m =>
      obtain ⟨j, hj, -⟩ := ks.reports hm
      have hij : i.Like j := by
        simpa [Host.record?, hn, hm, hi, hj, Instance.Like] using hrecord
      refine ⟨[(n, m)], nofun, hS, by simp [TwoRuns.ofView, hn, hm], hcontext, fun hp => ?_,
        fun hp hp' => ?_, hpast⟩
      · cases List.mem_singleton.mp hp
        exact ⟨i, j, hi, hj, hij, hid⟩
      · cases List.mem_singleton.mp hp
        cases List.mem_singleton.mp hp'
        exact iff_of_true rfl rfl

theorem Alike.view (ha : Alike c ns h k) (hs : h.Sound) (ks : k.Sound) :
    h.view c.id = k.view c.id := by
  have hrecord : (h.record? c.id).map Instance.shown = (k.record? c.id).map Instance.shown := by
    rcases ha.found with ⟨hn, hm⟩ | ⟨n, m, hn, hm, hfound⟩
    · simp [Host.record?, hn, hm]
    · obtain ⟨i, j, hi, hj, hij, -⟩ := hfound.instances List.mem_cons_self
      simpa [Host.record?, hn, hm, hi, hj, Instance.Like] using hij
  obtain ⟨pairs, -, hby⟩ := ha
  exact Host.view_eq hs ks hrecord hby.context hby.invocations

/-- All that happens while an event is handled is about its id. -/
theorem handle_ends_about {result : Except String (Except HostError Unit)} (hs : h.Sound)
    (hends : (handle e).Ends t h result u h') : ∀ w ∈ h'.since h, h'.idOf? w = some e.id := by
  have halike : Alike (.ofView h h e.id rfl) [] h' h' := by
    cases handle_matches rfl (Alike.of_view hs hs (.refl h.setup) rfl) hends hends with
    | values hab => exact hab.2
    | broken ha => exact ha
  obtain ⟨pairs, -, hby⟩ := halike
  obtain ⟨new, new', -, hpast, -, habout⟩ := hby.past
  have hpast : h'.past = h.past ++ new' := hpast
  rw [Host.since_eq hpast]
  exact habout

theorem handle_ends_sound {result : Except String (Except HostError Unit)} (hs : h.Sound)
    (hends : (handle e).Ends t h result u h') : h'.Sound := by
  obtain ⟨steps, hrun⟩ := hends
  exact ((handle_keepsHost e).later hrun).sound hs

/-- An event comes to the same wherever the same is seen under its id. -/
theorem handle_agrees (hs : h.Sound) (ks : k.Sound) (hS : h.setup.Like k.setup)
    (hv : h.view e.id = k.view e.id) : Agree (handle e) (handle e) h k
      (fun a b h' k' => a = b ∧ h'.view e.id = k'.view e.id ∧
        h'.sinceUnder h e.id = k'.sinceUnder k e.id) fun _ _ => True := by
  intro t o u h' t' o' u' k' hends hends'
  have hsound := handle_ends_sound hs hends
  have ksound := handle_ends_sound ks hends'
  have habout := handle_ends_about hs hends
  refine (handle_matches rfl (Alike.of_view hs ks hS hv) hends hends').mono (fun {a b} hab => ?_)
    fun _ => trivial
  refine ⟨hab.1, hab.2.view hsound ksound, ?_⟩
  obtain ⟨pairs, -, hby⟩ := hab.2
  obtain ⟨new, new', hpast, hpast', hsame, habout'⟩ := hby.past
  have habout' : ∀ w ∈ new', k'.idOf? w = some e.id := habout'
  rw [Host.since_eq hpast] at habout
  rw [Host.sinceUnder, Host.since_eq hpast, Host.sinceUnder, Host.since_eq hpast',
    filter_idOf?_self habout, filter_idOf?_self habout', hsame]

end ExtensionHost
