import ExtensionHost.Host.Run
import ExtensionHost.Proofs.Trace

/-!
# Which instance a drain stops

A drain has its instance in hand, but it stops what is registered under the
instance's id when it comes to it. Others may have registered another instance
there by then, while the drain was waiting. Then the drain stops that one, and
succeeds without having stopped its own.
-/

namespace ExtensionHost

open Program

variable {α β : Type} {others : Host → Host → Prop} {t u : Nat} {h h' : Host}
variable {steps xs ys : List (Step Host)}

/-! ## Calls of stop -/

/-- Whether something that happened is a call of stop. -/
def Happening.isStop : Happening → Bool
  | .called _ .stop => true
  | _ => false

/-- The first step of a run in which the program itself calls stop. -/
def firstStop? (steps : List (Step Host)) : Option (Step Host) :=
  steps.find? fun x => x.own && x.adds.any (·.isStop)

theorem firstStop?_append_of_none (hnone : ∀ n, .called n .stop ∉ ownHappenings xs) :
    firstStop? (xs ++ ys) = firstStop? ys := by
  have hxs : firstStop? xs = none := by
    refine List.find?_eq_none.mpr fun x hx hstop => ?_
    obtain ⟨hown, hany⟩ := Bool.and_eq_true_iff.mp hstop
    obtain ⟨w, hw, hws⟩ := List.any_eq_true.mp hany
    cases w with
    | called n call =>
      cases call with
      | stop => exact hnone n (mem_ownHappenings.mpr ⟨x, hx, hown, hw⟩)
      | _ => cases hws
    | _ => cases hws
  rw [firstStop?] at hxs ⊢
  rw [List.find?_append, hxs, Option.none_or]
  rfl

/-! ## One call -/

/-- A call that has begun goes on, or it has ended. -/
private theorem call_end_run {n delayMs : Nat} {call : Call} {ending : Ending}
    {q : HostProgram (Except ErrorChain Unit)}
    (hrun : ((sleep delayMs).bind fun _ =>
      (changeAt fun now h => Host.endCall h now n call ending).bind fun _ =>
        ending.result).Run others t h steps q u h') :
    (ownHappenings steps = [] ∧ ∀ r, q ≠ done r) ∨
      ownHappenings steps = [.ended n call ending] ∧ q = ending.result := by
  have hsleep : (sleep delayMs : HostProgram Unit).Works fun _ => False := works_sleep delayMs
  obtain ⟨p', rfl, hp', hp⟩ | ⟨a, xs, ys, t₁, h₁, rfl, hp, hend⟩ := hrun.of_bind
  · exact .inl ⟨hsleep.ownHappenings_eq (fun _ _ => False.elim) hp, bind_ne_done hp'⟩
  have hxs := hsleep.ownHappenings_eq (fun _ _ => False.elim) hp
  obtain ⟨rfl, rfl, -⟩ | ⟨zs, rfl, hresult⟩ := hend.of_act
  · exact .inl ⟨by simp [hxs], nofun⟩
  have hadds : Step.adds ⟨true, t₁, h₁, h₁.endCall t₁ n call ending⟩ = [.ended n call ending] :=
    Step.adds_eq (by simp [Host.endCall])
  obtain ⟨rfl, hq⟩ : zs = [] ∧ q = ending.result := by
    cases ending <;> cases hresult <;> exact ⟨rfl, rfl⟩
  refine .inr ⟨?_, hq⟩
  rw [ownHappenings_append, hxs, ownHappenings_cons rfl, hadds]
  rfl

/-- A run of a call of an instance: it has not begun, or it goes on, or it has ended
as the instance answered. -/
theorem callInstance_run {n : Nat} {call : Call} {i : Instance}
    {q : HostProgram (Except ErrorChain Unit)}
    (hrun : (callInstance n call).Run others t h steps q u h') (hi : h.instance? n = some i) :
    (steps = [] ∧ q = callInstance n call) ∨
      ∃ rest, steps = ⟨true, t, h, h.perform t (.beginCall n call)⟩ :: rest ∧
        ((ownHappenings rest = [] ∧ ∀ r, q ≠ done r) ∨
          ownHappenings rest = [.ended n call (i.response call).ending] ∧
            q = (i.response call).ending.result) := by
  obtain ⟨rfl, hq, -⟩ | ⟨rest, rfl, hrest⟩ := hrun.of_act
  · exact .inl ⟨rfl, hq⟩
  refine .inr ⟨rest, rfl, ?_⟩
  simp only [Host.beginCall_some hi] at hrest
  exact call_end_run hrest

/-- The begin of a call, as a step of a run. -/
def beginStep (t : Nat) (h : Host) (n : Nat) (call : Call) : Step Host :=
  ⟨true, t, h, h.perform t (.beginCall n call)⟩

theorem beginStep_adds {n : Nat} {call : Call} {i : Instance}
    (hi : h.instance? n = some i) : (beginStep t h n call).adds = [.called n call] :=
  Step.adds_eq (by simp [beginStep, Host.perform, Host.beginCall_some hi])

/-- A run of a call with something after it: the call has not begun, or it goes on or
has broken down, or it has been answered and what is after it is run. -/
private theorem call_bind_run {n : Nat} {call : Call} {i : Instance}
    {k : Except ErrorChain Unit → HostProgram α} {q : HostProgram α}
    (hrun : ((callInstance n call).bind k).Run others t h steps q u h')
    (hi : h.instance? n = some i) :
    (steps = [] ∧ ∀ r, q ≠ done r) ∨
      (∃ rest, steps = beginStep t h n call :: rest ∧ (∀ r, q ≠ done r) ∧
        ∀ w ∈ ownHappenings rest, ∃ ending, w = .ended n call ending) ∨
      ∃ xs ys ending r t₁ h₁, steps = beginStep t h n call :: (xs ++ ys) ∧
        ownHappenings xs = [.ended n call ending] ∧ ending.result = done r ∧
        (callInstance n call).Run others t h (beginStep t h n call :: xs) (done r) t₁ h₁ ∧
        (k r).Run others t₁ h₁ ys q u h' := by
  obtain ⟨p', rfl, hp', hp⟩ | ⟨r, zs, ys, t₁, h₁, rfl, hp, hk⟩ := hrun.of_bind
  · obtain ⟨rfl, -⟩ | ⟨rest, rfl, hrest⟩ := callInstance_run hp hi
    · exact .inl ⟨rfl, bind_ne_done hp'⟩
    · refine .inr (.inl ⟨rest, rfl, bind_ne_done hp', ?_⟩)
      obtain ⟨hnone, -⟩ | ⟨hend, -⟩ := hrest
      · simp [hnone]
      · simp [hend]
  · obtain ⟨-, hdone⟩ | ⟨xs, rfl, hrest⟩ := callInstance_run hp hi
    · exact absurd hdone nofun
    · obtain ⟨-, hdone⟩ | ⟨hend, hdone⟩ := hrest
      · exact absurd rfl (hdone r)
      · exact .inr (.inr ⟨xs, ys, _, r, t₁, h₁, rfl, hend, hdone.symm, hp, hk⟩)

/-! ## The stop at the end of a drain -/

/-- A step of a program that leaves nothing in the history. -/
def Step.IsIdle (x : Step Host) : Prop :=
  x.own = true ∧ x.after.past = x.before.past

theorem Step.IsIdle.adds {x : Step Host} (hx : x.IsIdle) : x.adds = [] :=
  Step.adds_eq (by simp [hx.2])

theorem ownHappenings_idle {x : Step Host} (hx : x.IsIdle) :
    ownHappenings (x :: xs) = ownHappenings xs := by
  rw [ownHappenings_cons hx.1, hx.adds, List.nil_append]

theorem ownHappenings_begin {n : Nat} {call : Call} {i : Instance}
    (hi : h.instance? n = some i) :
    ownHappenings (beginStep t h n call :: xs) = .called n call :: ownHappenings xs := by
  rw [ownHappenings_cons rfl, beginStep_adds hi]
  rfl

theorem Ending.eq_succeeded {ending : Ending} {a : Unit}
    (hresult : ending.result = done (.ok a)) : ending = .succeeded := by
  cases ending with
  | succeeded => rfl
  | failed e => cases hresult
  | brokeDown message => cases hresult

variable {q : HostProgram (Except LifecycleError Unit)} {r : Registry} {first n m : Nat}
variable {i j : Instance} {id : String}

/-- What a program has come to that stops instances: it has called stop on a first one,
while the registry was `r`, then at most on another, and has succeeded only if one of
the two stopped. -/
private structure StopsFirst (r : Registry) (first n : Nat) (steps : List (Step Host))
    (q : HostProgram (Except LifecycleError Unit)) : Prop where
  target : ∃ x, firstStop? steps = some x ∧ x.before.registry = r
  called : .called first .stop ∈ ownHappenings steps
  only : ∀ m, .called m .stop ∈ ownHappenings steps → m = first ∨ m = n
  stopped : q = done (.ok ()) →
    ∃ m, (m = first ∨ m = n) ∧ .ended m .stop .succeeded ∈ ownHappenings steps

/-- Either the program has not called stop so far, or it has called it on `first`. -/
private def StopsOrWaits (r : Registry) (first n : Nat) (steps : List (Step Host))
    (q : HostProgram (Except LifecycleError Unit)) : Prop :=
  ((∀ m, .called m .stop ∉ ownHappenings steps) ∧ ∀ r, q ≠ done r) ∨ StopsFirst r first n steps q

private theorem StopsOrWaits.append (hxs : ∀ m, .called m .stop ∉ ownHappenings xs)
    (hs : StopsOrWaits r first n ys q) : StopsOrWaits r first n (xs ++ ys) q := by
  obtain ⟨hnone, hq⟩ | ⟨htarget, hcalled, honly, hstopped⟩ := hs
  · refine .inl ⟨fun m hm => ?_, hq⟩
    rw [ownHappenings_append] at hm
    exact (List.mem_append.mp hm).elim (hxs m) (hnone m)
  · refine .inr ⟨?_, ?_, fun m hm => ?_, fun hq => ?_⟩
    · rwa [firstStop?_append_of_none hxs]
    · simp [hcalled]
    · rw [ownHappenings_append] at hm
      exact honly m ((List.mem_append.mp hm).resolve_left (hxs m))
    · obtain ⟨m, hmn, hm⟩ := hstopped hq
      exact ⟨m, hmn, by simp [hm]⟩

private theorem StopsOrWaits.idle {x : Step Host} (hx : x.IsIdle)
    (hs : StopsOrWaits r first n xs q) : StopsOrWaits r first n (x :: xs) q := by
  have hnone : ∀ m, .called m .stop ∉ ownHappenings [x] := by simp [ownHappenings_idle hx]
  exact StopsOrWaits.append hnone hs

private theorem StopsFirst.begin (hj : h.instance? m = some j)
    (honly : ∀ k, .called k .stop ∈ ownHappenings xs → k = n)
    (hstopped : q = done (.ok ()) →
      ∃ k, (k = m ∨ k = n) ∧ .ended k .stop .succeeded ∈ ownHappenings xs) :
    StopsFirst h.registry m n (beginStep t h m .stop :: xs) q := by
  have hown : ownHappenings (beginStep t h m .stop :: xs) =
      .called m .stop :: ownHappenings xs := ownHappenings_begin hj
  have hstop : (beginStep t h m .stop).adds.any (·.isStop) = true := by
    rw [beginStep_adds hj]
    rfl
  refine ⟨⟨beginStep t h m .stop, ?_, rfl⟩, ?_, fun k hk => ?_, fun hq => ?_⟩
  · exact List.find?_cons_of_pos (Bool.and_eq_true_iff.mpr ⟨rfl, hstop⟩)
  · simp [hown]
  · rw [hown, List.mem_cons] at hk
    exact hk.imp (by simp) (honly k)
  · obtain ⟨k, hkn, hk⟩ := hstopped hq
    exact ⟨k, hkn, by simp [hown, hk]⟩

/-- The stop of the drained instance itself, after what is registered did not stop. -/
def forceStop (id : String) (n : Nat) : HostProgram (Except LifecycleError Unit) :=
  (callInstance n .stop).bind fun r => match r with
    | .ok _ => .done (.ok ())
    | .error e => .done (.error (.stopFailed id ("forced stop failed: " ++ e.full)))

private theorem forceStop_run (hrun : (forceStop id n).Run others t h steps q u h')
    (hi : h.instance? n = some i) :
    (steps = [] ∧ ∀ r, q ≠ done r) ∨
      ∃ rest, steps = beginStep t h n .stop :: rest ∧
        (∀ w ∈ ownHappenings rest, ∃ ending, w = .ended n .stop ending) ∧
        (q = done (.ok ()) → .ended n .stop .succeeded ∈ ownHappenings rest) := by
  obtain hnot | ⟨rest, rfl, hq, hends⟩ | ⟨xs, ys, ending, r, t₁, h₁, rfl, hxs, hr, -, hk⟩ :=
    call_bind_run hrun hi
  · exact .inl hnot
  · exact .inr ⟨rest, rfl, hends, fun hdone => absurd hdone (hq _)⟩
  · cases r with
    | ok a =>
      obtain ⟨rfl, rfl, -⟩ := hk.of_done
      rw [Ending.eq_succeeded hr] at hxs
      exact .inr ⟨xs, by simp, by simp [hxs], fun _ => by simp [hxs]⟩
    | error e =>
      obtain ⟨rfl, rfl, -⟩ := hk.of_done
      exact .inr ⟨xs, by simp, by simp [hxs], nofun⟩

/-- What a stop does with what is registered: it is told to stop, and if it does not,
or if there is nothing, the drained instance is. -/
def stopFound (id : String) (n : Nat) :
    Option Nat → HostProgram (Except LifecycleError Unit)
  | none => (note (.stopForced id (.notFound id))).bind fun _ => forceStop id n
  | some m => (callInstance m .stop).bind fun r => match r with
    | .ok _ => .done (.ok ())
    | .error e => (note (.stopForced id (.stopFailed id e.full))).bind fun _ => forceStop id n

theorem stopWithRetry_eq (id : String) (n : Nat) :
    stopWithRetry id n = (ask (·.registry.get? id)).bind (stopFound id n) := by
  simp only [stopWithRetry, stopRegistered, callRegistered, bind_eq, pure_eq, bind_assoc]
  congr 1
  funext found
  cases found with
  | none => rfl
  | some m =>
    simp only [stopFound, bind_assoc]
    congr 1
    funext r
    cases r <;> rfl

private theorem stopFound_none_run
    (hrun : (stopFound id n none).Run others t h steps q u h') (hi : h.instance? n = some i) :
    StopsOrWaits h.registry n n steps q := by
  obtain ⟨rfl, rfl, -⟩ | ⟨rest, rfl, hforce⟩ := hrun.of_act
  · exact .inl ⟨by simp, nofun⟩
  refine .idle ⟨rfl, rfl⟩ ?_
  obtain ⟨rfl, hq⟩ | ⟨zs, rfl, hends, hdone⟩ := forceStop_run hforce hi
  · exact .inl ⟨by simp, hq⟩
  · refine .inr (StopsFirst.begin (h := h.notice _) hi (fun k hk => ?_)
      fun hq => ⟨n, .inl rfl, hdone hq⟩)
    obtain ⟨ending, hw⟩ := hends _ hk
    cases hw

private theorem stopFound_some_run
    (hrun : (stopFound id n (some m)).Run Host.Later t h steps q u h')
    (hj : h.instance? m = some j) (hi : h.instance? n = some i) :
    StopsOrWaits h.registry m n steps q := by
  obtain hnot | ⟨rest, rfl, hq, hends⟩ | ⟨xs, ys, ending, r, t₁, h₁, rfl, hxs, hr, hcall, hk⟩ :=
    call_bind_run hrun hj
  · exact .inl ⟨by simp [hnot.1], hnot.2⟩
  · refine .inr (.begin hj (fun k hk => ?_) fun hdone => absurd hdone (hq _))
    obtain ⟨ending, hw⟩ := hends _ hk
    cases hw
  cases r with
  | ok a =>
    obtain ⟨rfl, rfl, -⟩ := hk.of_done
    rw [Ending.eq_succeeded hr] at hxs
    refine .inr (.begin hj ?_ fun _ => ⟨m, .inl rfl, ?_⟩)
    · simp [hxs]
    · simp [hxs]
  | error e =>
    -- What is registered did not stop, so the drained instance is told to as well.
    obtain ⟨rfl, rfl, -⟩ | ⟨rest, rfl, hforce⟩ := hk.of_act
    · exact .inr (.begin hj (by simp [hxs]) nofun)
    have hworks : (callInstance m .stop).Works (Deed.IsCall (fun _ => True) (· = .stop)) :=
      callInstance_isCall trivial rfl
    obtain ⟨i', hi', -⟩ := (hworks.later (fun _ => Deed.IsCall.sparesRegistry) hcall).instances hi
    have hown {x : Step Host} {ys : List (Step Host)} (hx : x.IsIdle) :
        ownHappenings (xs ++ x :: ys) = .ended m .stop ending :: ownHappenings ys := by
      rw [ownHappenings_append, hxs, ownHappenings_idle hx]
      rfl
    obtain ⟨rfl, hq⟩ | ⟨zs, rfl, hends, hdone⟩ := forceStop_run hforce hi'
    · refine .inr (.begin hj (fun k hk => ?_) fun hdone => absurd hdone (hq _))
      rw [hown ⟨rfl, rfl⟩] at hk
      simp at hk
    · have hbegin : ownHappenings (beginStep t₁ (h₁.notice [.stopForced id (.stopFailed id e.full)])
          n .stop :: zs) = .called n .stop :: ownHappenings zs := ownHappenings_begin hi'
      refine .inr (.begin hj (fun k hk => ?_) fun hq => ⟨n, .inr rfl, ?_⟩)
      · rw [hown ⟨rfl, rfl⟩, hbegin, List.mem_cons, List.mem_cons] at hk
        obtain hw | hw | hw := hk
        · cases hw
        · cases hw
          rfl
        · obtain ⟨ending, hw⟩ := hends _ hw
          cases hw
      · rw [hown ⟨rfl, rfl⟩, hbegin]
        exact List.mem_cons_of_mem _ (List.mem_cons_of_mem _ (hdone hq))

/-- The first stop is that of what is registered when it begins, or of the drained
instance if nothing is. -/
private theorem stopWithRetry_run (hrun : (stopWithRetry id n).Run Host.Later t h steps q u h')
    (hl : h.Linked) (hi : h.instance? n = some i) :
    StopsOrWaits h.registry ((h.registry.get? id).getD n) n steps q := by
  rw [stopWithRetry_eq] at hrun
  obtain ⟨rfl, rfl, -⟩ | ⟨rest, rfl, hfind⟩ := hrun.of_act
  · exact .inl ⟨by simp, nofun⟩
  -- The look-up and the call that follows are not apart: no wait lies between them.
  replace hfind : (stopFound id n (h.registry.get? id)).Run Host.Later t h rest q u h' := hfind
  refine .idle ⟨rfl, rfl⟩ ?_
  cases hfound : h.registry.get? id with
  | none => exact stopFound_none_run (hfound ▸ hfind) hi
  | some m =>
    obtain ⟨j, hj⟩ := hl hfound
    exact stopFound_some_run (hfound ▸ hfind) hj hi

/-! ## Drains -/

/-- A run of a drain that has kept to its instance: it has called stop on no other one,
and if it has succeeded then its own instance has stopped. -/
structure KeepsToInstance (n : Nat) (steps : List (Step Host))
    (q : HostProgram (Except LifecycleError Unit)) : Prop where
  calls : ∀ m, .called m .stop ∈ ownHappenings steps → m = n
  stopped : q = done (.ok ()) → .ended n .stop .succeeded ∈ ownHappenings steps

private theorem StopsOrWaits.keepsToInstance_iff
    (hs : StopsOrWaits r ((r.get? id).getD n) n steps q) :
    KeepsToInstance n steps q ↔
      ∀ x, firstStop? steps = some x → ∀ m, x.before.registry.get? id = some m → m = n := by
  obtain ⟨hnone, hq⟩ | ⟨⟨x, hx, hr⟩, hcalled, honly, hstopped⟩ := hs
  -- Before the first call of stop there is nothing to keep to, and no such step either.
  · have happend : firstStop? (steps ++ []) = firstStop? [] := firstStop?_append_of_none hnone
    have hfirst : firstStop? steps = none := by simpa [firstStop?] using happend
    exact ⟨fun _ x hx => by simp [hfirst] at hx,
      fun _ => ⟨fun m hm => absurd hm (hnone m), fun hdone => absurd hdone (hq _)⟩⟩
  · constructor
    · intro hkeeps y hy m hm
      cases hx.symm.trans hy
      rw [hr] at hm
      rw [hm, Option.getD_some] at hcalled
      exact hkeeps.calls m hcalled
    · intro hreg
      have hfirst : (r.get? id).getD n = n := by
        cases hm : r.get? id with
        | none => rfl
        | some m => exact hreg x hx m (hr ▸ hm)
      rw [hfirst] at honly hstopped
      refine ⟨fun m hm => or_self_iff.mp (honly m hm), fun hq => ?_⟩
      obtain ⟨m, hmn, hm⟩ := hstopped hq
      obtain rfl : m = n := or_self_iff.mp hmn
      exact hm

/-- The first stop of a drain is that of what is registered then under the instance's id,
or of the instance itself. -/
private theorem drain_run {timeoutMs : Nat}
    (hrun : (drain n timeoutMs).Run Host.Later t h steps q u h') (hl : h.Linked)
    (hi : h.instance? n = some i) : ∃ r, StopsOrWaits r ((r.get? i.id).getD n) n steps q := by
  obtain ⟨rfl, rfl, -⟩ | ⟨rest, rfl, hdrain⟩ := hrun.of_act
  · exact ⟨h.registry, .inl ⟨by simp, nofun⟩⟩
  replace hdrain : (drainInstance i n timeoutMs).Run Host.Later t h rest q u h' := by
    simpa only [hi, pure_bind] using hdrain
  rw [drainInstance_eq] at hdrain
  suffices hs : ∃ r, StopsOrWaits r ((r.get? i.id).getD n) n rest q by
    obtain ⟨r, hs⟩ := hs
    exact ⟨r, .idle ⟨rfl, rfl⟩ hs⟩
  -- The instance is made quiet first, without any stop; what others register until then
  -- is what the first stop will find.
  have hquiet {p' : HostProgram Unit} {xs : List (Step Host)} {t₁ : Nat} {h₁ : Host}
      (hp : (quiet i n timeoutMs).Run Host.Later t h xs p' t₁ h₁) :
      (∀ m, .called m .stop ∉ ownHappenings xs) ∧ h.Later h₁ := by
    have hworks := quiet_works i n timeoutMs
    exact ⟨fun m => Deed.called_not_left (hworks.left hp) fun hd => hd.2.elim nofun nofun,
      hworks.later (fun _ => Deed.IsQuieting.sparesRegistry) hp⟩
  obtain ⟨p', rfl, hp', hp⟩ | ⟨a, xs, ys, t₁, h₁, rfl, hp, hstop⟩ := hdrain.of_bind
  · exact ⟨h.registry, .inl ⟨(hquiet hp).1, bind_ne_done hp'⟩⟩
  · obtain ⟨hnone, hlater⟩ := hquiet hp
    obtain ⟨i', hi', -⟩ := hlater.instances hi
    exact ⟨h₁.registry, (stopWithRetry_run hstop (hlater.linked hl) hi').append hnone⟩

/-- A drain that has come to its end has called stop: first on what was registered then,
or on its instance if nothing was. -/
theorem drain_done_firstStop {timeoutMs : Nat} {outcome : Except LifecycleError Unit}
    (hrun : (drain n timeoutMs).Run Host.Later t h steps (done outcome) u h') (hl : h.Linked)
    (hi : h.instance? n = some i) :
    ∃ x, firstStop? steps = some x ∧
      .called ((x.before.registry.get? i.id).getD n) .stop ∈ ownHappenings steps := by
  obtain ⟨r, ⟨-, hnot⟩ | ⟨⟨x, hx, rfl⟩, hcalled, -⟩⟩ := drain_run hrun hl hi
  · exact absurd rfl (hnot outcome)
  · exact ⟨x, hx, hcalled⟩

/-- A drain keeps to its instance exactly if no other one is registered under the
instance's id when the drain first calls stop. -/
theorem drain_keepsToInstance_iff {timeoutMs : Nat}
    (hrun : (drain n timeoutMs).Run Host.Later t h steps q u h') (hl : h.Linked)
    (hi : h.instance? n = some i) :
    KeepsToInstance n steps q ↔
      ∀ x, firstStop? steps = some x → ∀ m, x.before.registry.get? i.id = some m → m = n := by
  obtain ⟨r, hs⟩ := drain_run hrun hl hi
  exact hs.keepsToInstance_iff

/-- Nobody else acts, so the drain of the registered instance keeps to it. -/
theorem drain_of_registered_keepsToInstance :
    let run := (drain 0 50).alone 7 .busyRegistered
    firstStop? run.1 ≠ none ∧ KeepsToInstance 0 run.1 run.2.1 := by
  have hreg : (firstStop? ((drain 0 50).alone 7 .busyRegistered).1).map
      (·.before.registry.get? "a") = some (some 0) := by decide +kernel
  refine ⟨fun hnone => by simp [hnone] at hreg, ?_⟩
  refine (drain_keepsToInstance_iff ((alone_run _ _ _).mono fun _ _ => False.elim)
    Host.busyRegistered_sound.linked rfl).mpr fun x hx m hm => ?_
  rw [hx, Option.map_some, Option.some_inj] at hreg
  exact Option.some_inj.mp (hm.symm.trans hreg)

/-- The busy extension is disabled in a task that misses its deadline and goes on, and
it is enabled again while that task still drains. -/
private def disableMeanwhile : HostProgram Unit := do
  let _ ← enable (.at "busy" "a")
  let _ ← handleInTime (.of .disable (.at "busy" "a")) 10
  let _ ← enable (.at "busy" "a")
  Program.sleep 100

/-- The host after the overlap. -/
private def disabledMeanwhile : Host :=
  (HostMachine.run (Machine.start .busy) disableMeanwhile).2.state

/-- Whether a task has succeeded. -/
def TaskOutcome.isSuccess : TaskOutcome → Bool
  | .ok (.ok _) => true
  | _ => false

/-- The task succeeds, and so does the drain in it; but it is the new instance that was
stopped, and the drained one never was. -/
theorem drain_stops_another_instance :
    (disabledMeanwhile.outcome? 0).any (·.isSuccess) = true ∧
      disabledMeanwhile.past = [
        .constructed "a" "0.0.0" ⟨0, []⟩ false, .registered "a" 0,
        .called 0 .start, .ended 0 .start .succeeded,
        .switched 0 false,
        .constructed "a" "0.0.0" ⟨0, []⟩ false, .registered "a" 1,
        .called 1 .start, .ended 1 .start .succeeded,
        .called 1 .stop, .ended 1 .stop .succeeded] := by
  decide +kernel

end ExtensionHost
