import Mathlib.Data.List.Induction
import ExtensionHost.Proofs.Reached
import ExtensionHost.Proofs.WholeTurns

/-!
# Starts of instances

An operation that brings an instance in builds it, registers it and starts it in one turn.
So whatever else is in progress, a start follows the registration of the same instance at
once, no instance is started twice, and none is registered that was there before.
-/

namespace ExtensionHost

open Program

variable {α β : Type} {t now n m : Nat} {h h' h'' : Host} {d : Descriptor}
variable {id : String} {past new before after : List Happening} {w : Happening}

/-! ## Histories -/

/-- Whether a happening is the registration of an instance, or a call of it. -/
def Happening.Mentions (n : Nat) : Happening → Prop
  | .registered _ m | .called m _ => m = n
  | _ => False

/-- Whether a happening is neither a registration nor a start. -/
def Happening.IsElse : Happening → Prop
  | .registered _ _ | .called _ .start => False
  | _ => True

/-- A history in which every registration is of an instance that was neither registered nor
called before, and the start of that instance comes next, and there are no other starts. -/
inductive StartsFresh : List Happening → Prop where
  | nil : StartsFresh []
  | other {past : List Happening} {w : Happening} :
    StartsFresh past → w.IsElse → StartsFresh (past ++ [w])
  | started {past : List Happening} {id : String} {n : Nat} :
    StartsFresh past → (∀ w ∈ past, ¬ w.Mentions n) →
    StartsFresh (past ++ [.registered id n] ++ [.called n .start])

theorem StartsFresh.append (hs : StartsFresh past) (hnew : ∀ w ∈ new, w.IsElse) :
    StartsFresh (past ++ new) := by
  induction new generalizing past with
  | nil => rwa [List.append_nil]
  | cons w new ih =>
    obtain ⟨hw, hnew⟩ := List.forall_mem_cons.mp hnew
    rw [List.append_cons]
    exact ih (hs.other hw) hnew

/-- What is registered has been started once. -/
theorem StartsFresh.count_start (hs : StartsFresh past) (hmem : .registered id n ∈ past) :
    past.count (.called n .start) = 1 := by
  have hnone {past : List Happening} (hfresh : ∀ w ∈ past, ¬ w.Mentions n) :
      past.count (.called n .start) = 0 :=
    List.count_eq_zero.mpr fun hmem => hfresh _ hmem rfl
  induction hs with
  | nil => cases hmem
  | @other past w _ hw ih =>
    rcases List.mem_append.mp hmem with hmem | hmem
    · have hne : w ≠ .called n .start := by
        rintro rfl
        exact hw
      rw [List.count_append, ih hmem, List.count_singleton, if_neg (by simpa using hne)]
    · obtain rfl := List.mem_singleton.mp hmem
      exact hw.elim
  | @started past id' m _ hfresh ih =>
    by_cases hn : m = n
    · subst hn
      simp [List.count_append, hnone hfresh]
    · have hmem' : .registered id n ∈ past := by
        simpa [Ne.symm hn] using hmem
      simp [List.count_append, ih hmem', hn]

/-- What is registered under an id after a happening, given what was before. -/
def Happening.registers (id : String) (found : Option Nat) : Happening → Option Nat
  | .registered id' n => if id' = id then some n else found
  | .unregistered id' _ => if id' = id then none else found
  | _ => found

/-- What is registered under an id after all that has happened. -/
def registeredAfter (past : List Happening) (id : String) : Option Nat :=
  past.foldl (Happening.registers id) none

theorem registeredAfter_append_of_else (hnew : ∀ w ∈ new, ∀ found, w.registers id found = found) :
    registeredAfter (past ++ new) id = registeredAfter past id := by
  unfold registeredAfter
  rw [List.foldl_append]
  generalize past.foldl (Happening.registers id) none = found
  induction new with
  | nil => rfl
  | cons w new ih =>
    obtain ⟨hw, hnew⟩ := List.forall_mem_cons.mp hnew
    rw [List.foldl_cons, hw, ih hnew]

@[simp] theorem registeredAfter_snoc :
    registeredAfter (past ++ [w]) id = w.registers id (registeredAfter past id) := by
  simp [registeredAfter]

theorem registered_mem (hn : registeredAfter past id = some n) : .registered id n ∈ past := by
  induction past using List.reverseRecOn with
  | nil => cases hn
  | append_singleton past w ih =>
    rw [registeredAfter_snoc] at hn
    have hold (hn : registeredAfter past id = some n) : .registered id n ∈ past ++ [w] :=
      List.mem_append_left _ (ih hn)
    cases w with
    | registered id' n' =>
      simp only [Happening.registers] at hn
      split at hn
      next heq =>
        cases hn
        exact heq ▸ List.mem_append_right _ (List.mem_singleton_self _)
      next => exact hold hn
    | unregistered id' n' =>
      simp only [Happening.registers] at hn
      split at hn
      · cases hn
      · exact hold hn
    | _ => exact hold hn

/-! ## Hosts at every step -/

/-- The registry is as the history tells. -/
def Host.Recounts (h : Host) : Prop :=
  ∀ id, h.registry.get? id = registeredAfter h.past id

theorem Host.perform_recounts {x : Deed} (hr : h.Recounts) : (h.perform now x).Recounts := by
  intro id
  -- What the other deeds leave in the history is no registration, and no end of one.
  have hspared (hs : x.SparesRegistry)
      (hleaves : ∀ w, x.Leaves w → ∀ found, w.registers id found = found) :
      (h.perform now x).registry.get? id = registeredAfter (h.perform now x).past id := by
    obtain ⟨new, hpast, hnew⟩ := h.perform_past now x
    rw [perform_registry hs, hpast,
      registeredAfter_append_of_else fun w hw => hleaves w (hnew w hw)]
    exact hr id
  cases x with
  | register id' n =>
    cases hblank : isBlankText id' with
    | true =>
      rw [perform, register_blank hblank]
      exact hr id
    | false =>
      simp only [perform, register_not_blank hblank, past_notice, past_happen]
      rw [registeredAfter_snoc]
      simp only [notice, happen, Registry.get?_insert, Happening.registers, eq_comm, hr id]
      rfl
  | unregister id' =>
    cases hn : h.registry.get? id' with
    | none =>
      rw [perform, unregister_none hn]
      show (h.registry.erase id').get? id = registeredAfter h.past id
      rw [Registry.get?_erase, ← hr id]
      split
      next heq => rw [heq, hn]
      next => rfl
    | some n =>
      rw [perform, unregister_some hn, past_happen, registeredAfter_snoc]
      simp only [happen, Registry.get?_erase, Happening.registers, eq_comm, hr id]
      rfl
  | build d =>
    refine hspared trivial fun w hw => ?_
    obtain ⟨_, _, rfl⟩ := hw
    exact fun _ => rfl
  | nothing | notice => exact hspared trivial fun _ hw => hw.elim
  | beginCall | endCall | switch | callGateway | runHook =>
    refine hspared trivial fun w hw => ?_
    obtain rfl := hw
    exact fun _ => rfl

/-- What holds of a host after every step: what is registered reports its id, has its context
kept, and is what the history tells. -/
structure Host.Tidy (h : Host) : Prop where
  sound : h.Sound
  paired : h.Paired
  recounts : h.Recounts

/-- A change that has nothing to do with instances, the registry and the history. -/
structure Host.Aside (h h' : Host) : Prop where
  instances : h'.instances = h.instances
  registry : h'.registry = h.registry
  history : h'.history = h.history

/-- The host has changed by a deed or aside, and is as it may be later. -/
def Host.Moves (now : Nat) (h h' : Host) : Prop :=
  h.Later h' ∧ ((∃ x, h' = h.perform now x) ∨ h.Aside h')

theorem Host.Aside.later (ha : h.Aside h') : h.Later h' :=
  .of_eq ha.instances ha.registry

theorem Host.Aside.past_eq (ha : h.Aside h') : h'.past = h.past := by
  rw [Host.past, ha.history, Host.past]

theorem Host.Aside.instance?_eq (ha : h.Aside h') : h'.instance? n = h.instance? n := by
  rw [Host.instance?, ha.instances, Host.instance?]

theorem Host.Aside.tidy (ha : h.Aside h') (ht : h.Tidy) : h'.Tidy := by
  refine ⟨ha.later.sound ht.sound, fun id => ?_, fun id => ?_⟩
  · have hinstance : h'.instance? = h.instance? := funext fun _ => ha.instance?_eq
    rw [ha.registry, ht.paired id, record?, record?, ha.registry, hinstance]
  · rw [ha.registry, ha.past_eq, ht.recounts id]

theorem Host.Moves.tidy (hm : h.Moves now h') (ht : h.Tidy) : h'.Tidy := by
  obtain ⟨hlater, ⟨x, rfl⟩ | ha⟩ := hm
  · exact ⟨hlater.sound ht.sound, perform_paired ht.sound.linked ht.paired,
      perform_recounts ht.recounts⟩
  · exact ha.tidy ht

/-! ## Hosts between turns -/

/-- What holds of a host while no turn is in progress: instances were started as they came
in, and what was registered or called is there. -/
structure Host.Regular (h : Host) : Prop where
  starts : StartsFresh h.past
  made : ∀ w ∈ h.past, ∀ n, w.Mentions n → n < h.nextInstance

/-- What a turn makes of a host: it stays regular and keeps its instances. -/
structure Host.Turned (h h' : Host) : Prop where
  regular : h.Regular → h'.Regular
  longer : h.nextInstance ≤ h'.nextInstance

theorem Host.Turned.refl (h : Host) : h.Turned h :=
  ⟨fun hr => hr, Nat.le_refl _⟩

theorem Host.Turned.trans (ht : h.Turned h') (ht' : h'.Turned h'') : h.Turned h'' :=
  ⟨fun hr => ht'.regular (ht.regular hr), Nat.le_trans ht.longer ht'.longer⟩

theorem Host.nextInstance_le
    (hi : ∀ {n i}, h.instance? n = some i → ∃ i', h'.instance? n = some i' ∧ i'.make = i.make) :
    h.nextInstance ≤ h'.nextInstance := by
  by_contra hlt
  obtain ⟨i', hi', -⟩ := hi (List.getElem?_eq_getElem (Nat.lt_of_not_le hlt))
  exact Nat.lt_irrefl _ (instance?_lt hi')

/-- A host stays regular as long as nothing happens and it keeps its instances. -/
theorem Host.Turned.of_same (hpast : h'.past = h.past)
    (hlonger : h.nextInstance ≤ h'.nextInstance) : h.Turned h' := by
  refine ⟨fun hr => ⟨hpast ▸ hr.starts, fun w hw n hn => ?_⟩, hlonger⟩
  exact Nat.lt_of_lt_of_le (hr.made w (hpast ▸ hw) n hn) hlonger

theorem Host.Aside.turned (ha : h.Aside h') : h.Turned h' :=
  .of_same ha.past_eq (Nat.le_of_eq (congrArg List.length ha.instances.symm))

/-- Whether a deed neither registers nor starts an instance. -/
def Deed.SparesStarts : Deed → Prop
  | .register _ _ | .beginCall _ .start => False
  | _ => True

theorem Deed.SparesStarts.isElse {x : Deed} (hx : x.SparesStarts) (hw : x.Leaves w) :
    w.IsElse := by
  cases x with
  | register => exact hx.elim
  | nothing | notice => exact hw.elim
  | build =>
    obtain ⟨_, _, rfl⟩ := hw
    exact trivial
  | unregister =>
    obtain ⟨_, rfl⟩ := hw
    exact trivial
  | beginCall n call =>
    obtain rfl := hw
    cases call <;> first | exact hx.elim | exact trivial
  | endCall | switch | callGateway | runHook =>
    obtain rfl := hw
    exact trivial

theorem Deed.SparesStarts.fits {x : Deed} (hx : x.SparesStarts) : x.Fits h := by
  cases x <;> first | exact hx.elim | exact trivial

/-- Only an instance that is there is called. -/
theorem Host.perform_called {x : Deed} {call : Call} (hx : x = .beginCall n call)
    (hpast : (h.perform now x).past = h.past ++ new) (hw : .called n call ∈ new) :
    n < h.nextInstance := by
  subst hx
  cases hi : h.instance? n with
  | some i => exact instance?_lt hi
  | none =>
    rw [perform, beginCall_none hi] at hpast
    rw [List.self_eq_append_right.mp hpast] at hw
    cases hw

/-- A deed that neither registers nor starts an instance leaves a host as a turn may. -/
theorem Host.perform_turned {x : Deed} (hx : x.SparesStarts) : h.Turned (h.perform now x) := by
  have hlonger := nextInstance_le (h.perform_grew now x).instances
  obtain ⟨new, hpast, hleaves⟩ := h.perform_past now x
  have hnew : ∀ w ∈ new, w.IsElse := fun w hw => hx.isElse (hleaves w hw)
  refine ⟨fun hr => ⟨hpast ▸ hr.starts.append hnew, fun w hw n hn => ?_⟩, hlonger⟩
  rw [hpast] at hw
  rcases List.mem_append.mp hw with hw | hw
  · exact Nat.lt_of_lt_of_le (hr.made w hw n hn) hlonger
  · cases w with
    | registered => exact (hnew _ hw).elim
    | called n' call =>
      obtain rfl : n' = n := hn
      have hcalled := perform_called (Deed.leaves_called.mp (hleaves _ hw)) hpast hw
      exact Nat.lt_of_lt_of_le hcalled hlonger
    | _ => exact hn.elim

/-- An instance has been built for an id on a host, and nothing has been done to it yet. -/
structure Host.JustBuilt (h h' : Host) (id : String) (n : Nat) : Prop where
  turned : h.Turned h'
  built : ∃ i, h'.instance? n = some i ∧ i.id = id
  fresh : h.Regular → ∀ w ∈ h'.past, ¬ w.Mentions n
  new : n = h.nextInstance

theorem Host.build_justBuilt (hb : h.build t d = (.ok (.ok n), h')) : h.JustBuilt h' d.id n := by
  have hturned : h.Turned (h.build t d).2 := perform_turned (x := .build d) trivial
  have hmakes := h.build_makes t d
  rw [hb] at hturned hmakes
  cases hmakes with
  | made hbuilt hid =>
    obtain ⟨new, hpast, hnew⟩ := hbuilt.past
    refine ⟨hturned, ⟨_, hbuilt.instance?_next, hid⟩, fun hr w hw hn => ?_, rfl⟩
    rw [hpast] at hw
    rcases List.mem_append.mp hw with hw | hw
    · exact Nat.lt_irrefl _ (hr.made w hw _ hn)
    · obtain ⟨_, _, rfl⟩ := hnew w hw
      exact hn

/-- An instance that was just built may be started once it is registered. -/
theorem Host.JustBuilt.started (hb : h.JustBuilt h' id n)
    (hinstances : h''.instances = h'.instances)
    (hregistered : h''.past = h'.past ++ [.registered id n]) :
    h.Turned (h''.beginCall t n .start).2 := by
  obtain ⟨i, hi, -⟩ := hb.built
  have hi'' : h''.instance? n = some i := by rw [instance?, hinstances, ← instance?, hi]
  have hpast : (h''.beginCall t n .start).2.past =
      h'.past ++ [.registered id n] ++ [.called n .start] := by
    rw [beginCall_some hi'', past_happen, past_modifyInstance, hregistered]
  have hlonger : h'.nextInstance ≤ (h''.beginCall t n .start).2.nextInstance := by
    have hgrew := h''.perform_grew t (.beginCall n .start)
    refine Nat.le_trans (Nat.le_of_eq ?_) (nextInstance_le hgrew.instances)
    rw [nextInstance, nextInstance, hinstances]
  refine ⟨fun hr => ⟨?_, fun w hw m hm => ?_⟩, Nat.le_trans hb.turned.longer hlonger⟩
  · rw [hpast]
    exact .started (hb.turned.regular hr).starts (hb.fresh hr)
  · refine Nat.lt_of_lt_of_le ?_ hlonger
    have hw : w ∈ h'.past ∨ w = .registered id n ∨ w = .called n .start := by
      simpa [hpast] using hw
    rcases hw with hw | rfl | rfl
    · exact (hb.turned.regular hr).made w hw m hm
    · obtain rfl : n = m := hm
      exact instance?_lt hi
    · obtain rfl : n = m := hm
      exact instance?_lt hi

/-! ## Turns -/

/-- Two steps that follow one another: an instance is built for a description and is new, and
then something is done with it. -/
structure Step.Makes (b x : Step Host) (d : Descriptor) (n : Nat) : Prop where
  built : b.before.build b.time d = (.ok (.ok n), b.after)
  new : n = b.before.nextInstance
  next : x.before = b.after

/-- Four steps that follow one another: an instance is built for a description, it is
registered under the id that it was built for and reports, it is looked up there, and
something is done with what was found. -/
structure Step.Introduces (b x z y : Step Host) (d : Descriptor) (n : Nat) : Prop where
  makes : b.Makes x d n
  registered : x.before.register x.time d.id n = (.ok (), x.after)
  then_sought : z.before = x.after
  sought : z.before.registry.get? d.id = some n
  reports : ∃ i, z.before.instance? n = some i ∧ i.id = d.id
  kept : z.after = z.before
  next : y.before = z.after

/-- After the steps of a turn so far, the next one registers only what the last one has built
for the id, and starts only what the last three have brought in. -/
structure Introduces (l : List (Step Host)) (y : Step Host) : Prop where
  registers : ∀ {id n}, .registered id n ∈ y.adds →
    ∃ earlier b d, l = earlier ++ [b] ∧ d.id = id ∧ b.Makes y d n
  starts : ∀ {n}, .called n .start ∈ y.adds →
    ∃ earlier b x z d, l = earlier ++ [b, x, z] ∧ b.Introduces x z y d n

/-- The steps of a turn, or of a part of one that begins and ends while no instance is being
brought in. -/
structure StartsWell (xs : List (Step Host)) : Prop where
  moves : ∀ x ∈ xs, Host.Moves x.time x.before x.after
  turned : ∀ {h h'}, Leads xs h h' → h.Turned h'
  introduces : EachAfter Introduces xs

variable {xs ys l : List (Step Host)} {x y : Step Host}

theorem Introduces.append (earlier : List (Step Host)) (hl : Introduces l y) :
    Introduces (earlier ++ l) y := by
  refine ⟨fun hmem => ?_, fun hmem => ?_⟩
  · obtain ⟨l, b, d, rfl, hb⟩ := hl.registers hmem
    exact ⟨earlier ++ l, b, d, (List.append_assoc ..).symm, hb⟩
  · obtain ⟨l, b, x, z, d, rfl, hb⟩ := hl.starts hmem
    exact ⟨earlier ++ l, b, x, z, d, (List.append_assoc ..).symm, hb⟩

/-- A step that neither registers nor starts anything. -/
theorem Introduces.of_else (hy : ∀ w ∈ y.adds, w.IsElse) : Introduces l y :=
  ⟨fun hmem => (hy _ hmem).elim, fun hmem => (hy _ hmem).elim⟩

theorem startsWell_composes : Composes StartsWell where
  nil := by
    refine ⟨List.forall_mem_nil _, fun {h h'} hleads => ?_, fun l x l' heq => ?_⟩
    · obtain rfl : h' = h := hleads
      exact .refl h'
    · simp at heq
  append := by
    intro xs ys hxs hys
    refine ⟨List.forall_mem_append.mpr ⟨hxs.moves, hys.moves⟩, fun h => ?_,
      hxs.introduces.append hys.introduces fun l => .append l⟩
    obtain ⟨h₁, hl, hl'⟩ := leads_append.mp h
    exact (hxs.turned hl).trans (hys.turned hl')

theorem startsWell_singleton (hm : Host.Moves x.time x.before x.after)
    (ht : x.before.Turned x.after) (helse : ∀ w ∈ x.adds, w.IsElse) : StartsWell [x] := by
  refine ⟨List.forall_mem_singleton.mpr hm, fun ⟨hbefore, hafter⟩ => ?_, fun l y l' heq => ?_⟩
  · exact hbefore ▸ hafter ▸ ht
  · have hy : y ∈ [x] := heq ▸ List.mem_append_right l List.mem_cons_self
    exact .of_else (List.mem_singleton.mp hy ▸ helse)

theorem Host.moves_perform {x : Deed} (hx : x.Fits h) : h.Moves t (h.perform t x) :=
  ⟨perform_later hx, .inl ⟨x, rfl⟩⟩

theorem Host.moves_refl : h.Moves t h :=
  moves_perform (x := .nothing) trivial

/-- A deed that neither registers nor starts an instance. -/
theorem perform_startsWell {x : Deed} (hx : x.SparesStarts) (own : Bool) :
    StartsWell [⟨own, t, h, h.perform t x⟩] := by
  obtain ⟨new, hpast, hleaves⟩ := h.perform_past t x
  refine startsWell_singleton (Host.moves_perform hx.fits) (Host.perform_turned hx) ?_
  rw [Step.adds_eq hpast]
  exact fun w hw => hx.isElse (hleaves w hw)

section

variable {b z : Step Host} (hnew : b.Introduces x z y d n) (hblank : isBlankText d.id = false)
variable (hcalled : y.after = (y.before.beginCall y.time n .start).2)
include hnew

theorem Step.Introduces.built :
    b.after = b.before.perform b.time (.build d) ∧ b.before.JustBuilt b.after d.id n :=
  ⟨(congrArg (·.2) hnew.makes.built).symm, Host.build_justBuilt hnew.makes.built⟩

theorem Step.Introduces.register_eq : x.after = x.before.perform x.time (.register d.id n) :=
  (congrArg (·.2) hnew.registered).symm

include hblank

/-- The registration is all that there is between the build and the start. -/
theorem Step.Introduces.registers : x.after.past = x.before.past ++ [.registered d.id n] ∧
    x.after.instances = x.before.instances := by
  rw [hnew.register_eq, Host.perform, Host.register_not_blank hblank]
  simp [Host.past, Host.notice, Host.happen]

include hcalled

theorem Step.Introduces.adds_start : y.adds = [.called n .start] := by
  obtain ⟨i, hi, -⟩ := hnew.built.2.built
  have hy : y.before.instance? n = some i := by
    rw [hnew.next, hnew.kept, hnew.then_sought, Host.instance?, (hnew.registers hblank).2,
      hnew.makes.next]
    exact hi
  exact Step.adds_eq (by
    rw [hcalled, Host.beginCall_some hy, Host.past_happen, Host.past_modifyInstance])

/-- Each of the four steps introduces what it says. -/
theorem Step.Introduces.eachAfter : EachAfter ExtensionHost.Introduces [b, x, z, y] := by
  intro l y' l' heq
  rcases l with - | ⟨_, - | ⟨_, - | ⟨_, - | ⟨_, l⟩⟩⟩⟩ <;> simp at heq
  · -- A build leaves only constructors in the history.
    refine .of_else ?_
    obtain ⟨new, hpast, hleaves⟩ := b.before.perform_past b.time (.build d)
    rw [← heq.1, Step.adds_eq (hnew.built.1 ▸ hpast)]
    exact fun w hw => Deed.SparesStarts.isElse (x := .build d) trivial (hleaves w hw)
  · obtain ⟨rfl, rfl, -⟩ := heq
    refine ⟨fun hmem => ?_, fun hmem => ?_⟩ <;>
      rw [Step.adds_eq (hnew.registers hblank).1] at hmem
    · obtain ⟨rfl, rfl⟩ : _ = d.id ∧ _ = n := by simpa using hmem
      exact ⟨[], b, d, rfl, rfl, hnew.makes⟩
    · simp at hmem
  · -- Looking up what is registered leaves nothing.
    refine .of_else ?_
    rw [← heq.2.2.1, Step.adds_eq_nil (congrArg Host.past hnew.kept)]
    exact List.forall_mem_nil _
  · obtain ⟨rfl, rfl, rfl, rfl, -⟩ := heq
    refine ⟨fun hmem => ?_, fun hmem => ?_⟩ <;>
      rw [hnew.adds_start hblank hcalled] at hmem
    · simp at hmem
    · obtain rfl : _ = n := by simpa using hmem
      exact ⟨[], b, x, z, d, rfl, hnew⟩

/-- What is brought in may be started. -/
theorem Step.Introduces.startsWell : StartsWell [b, x, z, y] := by
  obtain ⟨hbuilt, hjust⟩ := hnew.built
  obtain ⟨i, hi, hid⟩ := hjust.built
  refine ⟨?_, fun hleads => ?_, hnew.eachAfter hblank hcalled⟩
  · have hbuild : b.before.Moves b.time b.after :=
      hbuilt ▸ Host.moves_perform (x := .build d) trivial
    have hregister : x.before.Moves x.time x.after := by
      rw [hnew.register_eq]
      exact Host.moves_perform ⟨i, hnew.makes.next ▸ hi, hid⟩
    have hask : z.before.Moves z.time z.after := hnew.kept ▸ Host.moves_refl
    have hcall : y.before.Moves y.time y.after :=
      hcalled ▸ Host.moves_perform (x := .beginCall n .start) trivial
    simpa using ⟨hbuild, hregister, hask, hcall⟩
  · have hregistered := hnew.registers hblank
    obtain ⟨rfl, -, -, -, rfl⟩ := hleads
    rw [hnew.makes.next] at hregistered
    rw [hcalled, hnew.next, hnew.kept, hnew.then_sought]
    exact hjust.started hregistered.2 hregistered.1

end

/-! ## Programs -/

/-- The turns of a program start instances as they come in. -/
def Program.StartsWell (p : HostProgram α) : Prop :=
  p.Turns ExtensionHost.StartsWell

theorem Program.StartsWell.bind {p : HostProgram α} {k : α → HostProgram β} (hp : p.StartsWell)
    (hk : ∀ a, (k a).StartsWell) : (p.bind k).StartsWell :=
  Turns.bind hp startsWell_composes hk

theorem done_startsWell (a : α) : Program.StartsWell (done a : HostProgram α) :=
  turns_done startsWell_composes a

theorem Program.Works.startsWell {allowed : Deed → Prop} {p : HostProgram α}
    (hw : p.Works allowed) (hspares : ∀ x, allowed x → x.SparesStarts) : p.StartsWell := by
  refine hw.does.turns startsWell_composes fun {t h h'} ⟨x, hx, hafter⟩ => ?_
  have hx : x.SparesStarts := hx.elim (fun hquiet => by cases x <;> trivial) (hspares x)
  exact hafter ▸ perform_startsWell hx true

/-- What was just built is registered and started before the turn is over. -/
theorem registerAndStart_turns (hb : h.build t d = (.ok (.ok n), h')) :
    (registerAndStart d.id n).TurnsOn StartsWell t [⟨true, t, h, h'⟩] h' := by
  have hbuilt : StartsWell [⟨true, t, h, h'⟩] := by
    have hdeed : h' = h.perform t (.build d) := (congrArg (·.2) hb).symm
    exact hdeed ▸ perform_startsWell (x := .build d) trivial true
  have hend (response : Response) : Program.StartsWell (do
      Program.sleep response.delayMs
      Program.changeAt fun now h => h.endCall now n .start response.ending
      response.ending.result) := by
    have hw : Program.Works (· = .endCall n .start response.ending) (do
        Program.sleep response.delayMs
        Program.changeAt fun now h => h.endCall now n .start response.ending
        response.ending.result) :=
      works_bind (works_sleep _) fun _ => works_bind
        (works_deed (.inr rfl) fun _ _ => rfl) fun _ => result_works _
    exact hw.startsWell fun x hx => hx ▸ trivial
  unfold registerAndStart TurnsOn
  cases hblank : isBlankText d.id with
  | true =>
    simp only [register, Program.bind_eq, Program.bind, turns, Host.register_blank hblank]
    exact startsWell_composes.append hbuilt (perform_startsWell (x := .nothing) trivial true)
  | false =>
    have hjust := Host.build_justBuilt hb
    obtain ⟨h₂, hregister, hget, hinstances⟩ : ∃ h₂, h'.register t d.id n = (.ok (), h₂) ∧
        h₂.registry.get? d.id = some n ∧ h₂.instances = h'.instances := by
      rw [Host.register_not_blank hblank]
      exact ⟨_, rfl, by simp [Host.notice, Host.happen], rfl⟩
    have hreports : ∃ i, h₂.instance? n = some i ∧ i.id = d.id := by
      rw [Host.instance?, hinstances]
      exact hjust.built
    have hnew : Step.Introduces ⟨true, t, h, h'⟩ ⟨true, t, h', h₂⟩ ⟨true, t, h₂, h₂⟩
        ⟨true, t, h₂, (h₂.beginCall t n .start).2⟩ d n := by
      exact ⟨⟨hb, hjust.new, rfl⟩, hregister, rfl, hget, hreports, rfl, rfl⟩
    simp only [register, Program.bind_eq, Program.bind, turns, hregister]
    simp only [startRegistered, callRegistered, ask, Program.bind_eq, Program.bind, turns, hget]
    have hcall : (callInstance n .start).TurnsOn StartsWell t
        [⟨true, t, h, h'⟩, ⟨true, t, h', h₂⟩, ⟨true, t, h₂, h₂⟩] h₂ :=
      (hend _).goesOn startsWell_composes (hnew.startsWell hblank rfl)
    exact turns_bind (turns_mono hcall fun {t xs h r} hxs => by cases r <;> exact hxs)

/-- After something that was just built is registered and started, anything that starts
well. -/
theorem registerAndStart_bind_turns {k : Except LifecycleError Unit → HostProgram α}
    (hb : h.build t d = (.ok (.ok n), h')) (hk : ∀ r, (k r).StartsWell) :
    ((registerAndStart d.id n).bind k).TurnsOn StartsWell t [⟨true, t, h, h'⟩] h' :=
  turns_bind (turns_mono (registerAndStart_turns hb) fun hxs =>
    (hk _).goesOn startsWell_composes hxs)

theorem build_bind_startsWell {k : Except HostError Nat → HostProgram α}
    (hfailed : ∀ e, (k (.error e)).StartsWell)
    (hmade : ∀ {n t h h'}, h.build t d = (.ok (.ok n), h') →
      (k (.ok n)).TurnsOn StartsWell t [⟨true, t, h, h'⟩] h') :
    ((build d).bind k).StartsWell := by
  intro t h
  have hstep : StartsWell [⟨true, t, h, h.perform t (.build d)⟩] :=
    perform_startsWell (x := .build d) trivial true
  show ((ofOutcome (h.build t d).1).bind k).turns _ _ t [⟨true, t, h, h.perform t (.build d)⟩]
    (h.build t d).2
  cases hb : (h.build t d).1 with
  | error message => exact hstep
  | ok result =>
    cases result with
    | error e => exact (hfailed e).goesOn startsWell_composes hstep
    | ok n => exact hmade (Prod.ext hb rfl)

theorem quiet_startsWell {p : HostProgram α} (hw : p.Works fun _ => False) : p.StartsWell :=
  hw.startsWell fun _ => False.elim

theorem enable_startsWell (d : Descriptor) : (enable d).StartsWell := by
  unfold enable
  split
  · exact done_startsWell _
  · exact build_bind_startsWell (fun e => done_startsWell _) fun hb =>
      registerAndStart_bind_turns hb fun _ => done_startsWell _

theorem Deed.IsDraining.sparesStarts {x : Deed} (hx : x.IsDraining n) : x.SparesStarts := by
  cases x with
  | beginCall m call =>
    cases call <;> first | exact trivial | simp [IsDraining, IsQuieting, IsCall] at hx
  | register => simp [IsDraining, IsQuieting, IsCall] at hx
  | _ => exact trivial

theorem Deed.IsCall.sparesStarts {ofNumber : Nat → Prop} {ofKind : Call → Prop} {x : Deed}
    (hx : x.IsCall ofNumber ofKind) (hkind : ¬ ofKind .start) : x.SparesStarts := by
  cases x with
  | beginCall m call => cases call <;> first | exact trivial | exact hkind hx.2
  | register => exact hx.elim
  | _ => exact trivial

theorem Deed.IsHookRun.sparesStarts {x : Deed} (hx : x.IsHookRun) : x.SparesStarts := by
  cases x <;> first | exact hx.elim | exact trivial

theorem runHooks_startsWell (id : String) (phase : CleanupPhase) :
    (runHooks id phase).StartsWell := by
  have hw : (runHooks id phase).Works Deed.IsHookRun := runHooks_works fun _ => trivial
  exact hw.startsWell fun _ => Deed.IsHookRun.sparesStarts

theorem drain_startsWell (n timeoutMs : Nat) : (drain n timeoutMs).StartsWell :=
  (drain_works n timeoutMs).startsWell fun _ => Deed.IsDraining.sparesStarts

theorem rollBack_startsWell (id : String) (old : Descriptor) (e : HostError) :
    (rollBack id old e).StartsWell := by
  refine (quiet_startsWell (noteAll_works _)).bind fun _ => (enable_startsWell old).bind fun r => ?_
  refine (quiet_startsWell (noteFailure_works _ r)).bind fun _ => ?_
  exact (runHooks_startsWell _ _).bind fun _ => done_startsWell _

theorem replaceWith_startsWell (d old : Descriptor) : (replaceWith d old).StartsWell := by
  refine build_bind_startsWell (fun e => rollBack_startsWell d.id old e) fun hb => ?_
  refine registerAndStart_bind_turns hb fun r => ?_
  cases r <;> exact (runHooks_startsWell _ _).bind fun _ => done_startsWell _

theorem updateRegistered_startsWell (d : Descriptor) (n : Nat) (old : Instance) :
    (updateRegistered d n old).StartsWell := by
  have hcleanup : (callInstance n (.cleanup false)).StartsWell := by
    have hw : (callInstance n (.cleanup false)).Works
        (Deed.IsCall (fun _ => True) (· = .cleanup false)) := callInstance_isCall trivial rfl
    exact hw.startsWell fun _ hx => hx.sparesStarts nofun
  have hunregister : (unregister d.id).StartsWell := by
    have hw : (unregister d.id).Works (· = .unregister d.id) := unregister_works rfl
    exact hw.startsWell fun _ hx => hx ▸ trivial
  refine (quiet_startsWell (noteAll_works _)).bind fun _ => ?_
  refine (quiet_startsWell (works_ask _)).bind fun policy => ?_
  refine (drain_startsWell n _).bind fun r => ?_
  cases r with
  | error e => exact (runHooks_startsWell _ _).bind fun _ => done_startsWell _
  | ok _ =>
    refine hunregister.bind fun _ => hcleanup.bind fun r => ?_
    refine (quiet_startsWell (noteFailure_works _ r)).bind fun _ => ?_
    exact (quiet_startsWell (works_sleep _)).bind fun _ => replaceWith_startsWell d _

theorem update_startsWell (d : Descriptor) : (update d).StartsWell := by
  refine (quiet_startsWell (works_ask _)).bind fun found => ?_
  cases found with
  | none => exact enable_startsWell d
  | some found => exact updateRegistered_startsWell d found.1 found.2

/-- Handling an event starts instances as they come in. -/
theorem handle_startsWell (e : Event) : (handle e).StartsWell := by
  unfold handle
  split
  · exact enable_startsWell _
  · exact (disable_works _).startsWell fun _ ⟨_, hx⟩ => hx.sparesStarts
  · exact update_startsWell _
  · refine (remove_works _).startsWell fun x hx => ?_
    rcases hx with rfl | ⟨n, hx | hx | hx⟩
    · exact trivial
    · exact hx.sparesStarts
    · exact hx.sparesStarts nofun
    · exact hx.sparesStarts

theorem handleEach_startsWell (events : List Event) (r : BatchResult) :
    (handleEach events r).StartsWell := by
  induction events generalizing r with
  | nil => exact done_startsWell r
  | cons e rest ih =>
    refine (handle_startsWell e).bind fun result => ?_
    exact (quiet_startsWell (noteFailure_works _ result)).bind fun _ => ih _

end ExtensionHost
