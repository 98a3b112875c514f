import ExtensionHost.Proofs.DrainCourse

/-!
# When pending requests are looked at

A program runs punctually when it is woken at its deadlines, and not later. Run so, the wait
of a drain for the pending requests looks at them once in an interval, and a last time when
its time is over. Whatever others do meanwhile, it ends with the first look that sees none or
is made at that time.
-/

namespace ExtensionHost

variable {σ ι α β : Type}

/-! ## Punctual runs -/

namespace Program

/-- `Punctual others p t s steps q u s'` says that there is such a run of `p` in which no wait
goes on after its deadline, unless that had passed when it began. -/
inductive Punctual (others : σ → σ → Prop) :
    Program σ ι α → Nat → σ → List (Step σ) → Program σ ι α → Nat → σ → Prop where
  | rest {p : Program σ ι α} {t s} : Punctual others p t s [] p t s
  | act {β : Type} {step : Nat → σ → β × σ} {next : β → Program σ ι α} {t s steps q u s'} :
      Punctual others (next (step t s).1) t (step t s).2 steps q u s' →
      Punctual others (.act step next) t s (⟨true, t, s, (step t s).2⟩ :: steps) q u s'
  | waits {ready deadline} {next : Program σ ι α} {t s steps u s'} :
      Meanwhile others t s steps u s' → (∀ d ∈ deadline, u ≤ max t d) →
      Punctual others (.wait ready deadline next) t s steps (.wait ready deadline next) u s'
  | wakes {ready deadline} {next : Program σ ι α} {t s xs t₁ s₁ ys q u s'} :
      Meanwhile others t s xs t₁ s₁ → (∀ d ∈ deadline, t₁ ≤ max t d) →
      (ready s₁ || deadline.any (· ≤ t₁)) = true → Punctual others next t₁ s₁ ys q u s' →
      Punctual others (.wait ready deadline next) t s (xs ++ ys) q u s'
  | spawn {own job} {next : Nat → Program σ ι α} {number t s steps q u s'} :
      Punctual others (next number) t s steps q u s' →
      Punctual others (.spawn own job next) t s steps q u s'

namespace Punctual

variable {others : σ → σ → Prop} {p q r : Program σ ι α} {t u v : Nat} {s s' s'' : σ}
variable {steps xs ys : List (Step σ)}

theorem run (h : Punctual others p t s steps q u s') : p.Run others t s steps q u s' := by
  induction h with
  | rest => exact .rest
  | act _ ih => exact .act ih
  | waits hm _ => exact .waits hm
  | wakes hm _ hover _ ih => exact .wakes hm hover ih
  | spawn _ ih => exact .spawn ih

theorem trans (h : Punctual others p t s xs q u s') (h' : Punctual others q u s' ys r v s'') :
    Punctual others p t s (xs ++ ys) r v s'' := by
  induction h with
  | rest => exact h'
  | act _ ih => exact .act (ih h')
  | @waits _ deadline _ t _ _ u _ hm hle =>
    have hlater : ∀ w, (∀ d ∈ deadline, w ≤ max u d) → ∀ d ∈ deadline, w ≤ max t d := by
      intro w hw d hd
      have := hw d hd
      have := hle d hd
      omega
    cases h' with
    | rest => simpa using .waits hm hle
    | waits hm' hle' => exact .waits (hm.trans hm') (hlater _ hle')
    | wakes hm' hle' hover h =>
      rw [← List.append_assoc]
      exact .wakes (hm.trans hm') (hlater _ hle') hover h
  | wakes hm hle hover _ ih =>
    rw [List.append_assoc]
    exact .wakes hm hle hover (ih h')
  | spawn _ ih => exact .spawn (ih h')

theorem time_le (h : Punctual others p t s steps q u s') : t ≤ u := by
  induction h with
  | rest => exact Nat.le_refl _
  | act _ ih => exact ih
  | waits hm _ => exact hm.time_le
  | wakes hm _ _ _ ih => exact Nat.le_trans hm.time_le ih
  | spawn _ ih => exact ih

theorem of_done {a : α} (h : Punctual others (.done a) t s steps q u s') :
    steps = [] ∧ q = .done a ∧ u = t ∧ s' = s := by
  cases h
  exact ⟨rfl, rfl, rfl, rfl⟩

/-- A program that has come to its end has made its first step. -/
theorem of_act_done {step : Nat → σ → β × σ} {next : β → Program σ ι α} {a : α}
    (h : Punctual others (.act step next) t s steps (.done a) u s') :
    ∃ rest, steps = ⟨true, t, s, (step t s).2⟩ :: rest ∧
      Punctual others (next (step t s).1) t (step t s).2 rest (.done a) u s' := by
  cases h with
  | act h => exact ⟨_, rfl, h⟩

/-- A program that sleeps is woken at that very time. -/
theorem of_sleepUntil_done {time : Nat} {k : Unit → Program σ ι α} {a : α} (hle : t ≤ time)
    (h : Punctual others ((sleepUntil time).bind k) t s steps (.done a) u s') :
    ∃ xs ys s₁, steps = xs ++ ys ∧ (∀ x ∈ xs, x.own = false) ∧
      Punctual others (k ()) time s₁ ys (.done a) u s' := by
  cases h with
  | wakes hm hpunctual hover hnext =>
    have hcome : time ≤ _ := of_decide_eq_true hover
    have hnot := hpunctual time rfl
    rw [Nat.max_eq_right hle] at hnot
    rw [Nat.le_antisymm hnot hcome] at hnext
    exact ⟨_, _, _, rfl, hm.not_own, hnext⟩

end Punctual

/-- Alone, a program is woken at its deadlines. -/
theorem alone_punctual {others : σ → σ → Prop} (p : Program σ ι α) (t : Nat) (s : σ) :
    p.Punctual others t s (p.alone t s).1 (p.alone t s).2.1 (p.alone t s).2.2.1
      (p.alone t s).2.2.2 := by
  induction p generalizing t s with
  | done | breakDown | spawn | goOn => exact .rest
  | act step next ih => exact .act (ih _ t _)
  | wait ready deadline next ih =>
    unfold alone
    split
    next hready =>
      have hintime : ∀ d ∈ deadline, t ≤ max t d := fun d _ => Nat.le_max_left t d
      exact .wakes (.nothing (Nat.le_refl t)) hintime (by simp [hready]) (ih t s)
    next =>
      cases deadline with
      | none => exact .rest
      | some d =>
        have hintime : ∀ d' ∈ some d, max t d ≤ max t d' := by
          intro d' hd'
          cases hd'
          exact Nat.le_refl _
        have hover : (ready s || (some d).any (· ≤ max t d)) = true :=
          Bool.or_eq_true_iff.mpr (.inr (decide_eq_true (Nat.le_max_right t d)))
        exact .wakes (.nothing (Nat.le_max_left t d)) hintime hover (ih _ s)

/-- A program that waits for nothing but the time can be run punctually to its end. -/
theorem IsTimed.punctual_ends {others : σ → σ → Prop} {p : Program σ ι α} (hp : p.IsTimed)
    (t : Nat) (s : σ) : ∃ steps r u s', p.Punctual others t s steps (ended r) u s' := by
  obtain ⟨r, hr⟩ := hp.alone_ended t s
  exact ⟨_, r, _, _, hr ▸ alone_punctual p t s⟩

end Program

open Program

/-! ## Looks -/

/-- When pending requests are looked at after so many looks before: every interval, and when
the time is over. -/
def lookTime (t interval T looks : Nat) : Nat :=
  t + min (looks * interval) T

theorem lookTime_zero (t interval T : Nat) : lookTime t interval T 0 = t := by
  simp [lookTime]

theorem lookTime_le (t interval T looks : Nat) : lookTime t interval T looks ≤ t + T :=
  Nat.add_le_add_left (Nat.min_le_right _ _) t

/-- Before the time is over the next look is one interval later, but not after that time. -/
theorem lookTime_succ {t interval T k : Nat} (hlt : lookTime t interval T k < t + T) :
    lookTime t interval T k + min interval (t + T - lookTime t interval T k) =
      lookTime t interval T (k + 1) := by
  unfold lookTime at *
  rw [Nat.succ_mul]
  omega

/-- As long as the time is not over there have not been many looks. -/
theorem lt_of_lookTime_lt {t interval T k : Nat} (hinterval : 0 < interval)
    (hlt : lookTime t interval T k < t + T) : k < (T + interval - 1) / interval := by
  have hk : k * interval < T := by
    unfold lookTime at hlt
    omega
  rw [Nat.lt_iff_add_one_le, Nat.le_div_iff_mul_le hinterval, Nat.succ_mul]
  omega

/-- Whether a look is the last one: nothing is pending, or the time is over. -/
def Step.EndsLooks (x : Step Host) (n deadline : Nat) : Prop :=
  x.before.pendingOf x.time n = 0 ∨ x.time = deadline

/-- Looks from the `k`-th to the `l`-th, each in time, of which only the last one ends them.
No look changes anything. -/
inductive LooksFrom (n t interval T : Nat) : Nat → List (Step Host) → Nat → Prop where
  | last {k} {x : Step Host} : x.time = lookTime t interval T k → x.after = x.before →
      x.EndsLooks n (t + T) → LooksFrom n t interval T k [x] k
  | again {k l} {x : Step Host} {looks} : x.time = lookTime t interval T k → x.after = x.before →
      ¬x.EndsLooks n (t + T) → LooksFrom n t interval T (k + 1) looks l →
      LooksFrom n t interval T k (x :: looks) l

variable {others : Host → Host → Prop} {n interval t T k l u : Nat} {h h' : Host}
variable {steps looks : List (Step Host)}

namespace LooksFrom

theorem le (hl : LooksFrom n t interval T k looks l) : k ≤ l := by
  induction hl with
  | last => exact Nat.le_refl _
  | again _ _ _ _ ih => exact Nat.le_of_succ_le ih

theorem times (hl : LooksFrom n t interval T k looks l) :
    looks.map (·.time) = (List.range' k (l + 1 - k)).map (lookTime t interval T) := by
  induction hl with
  | last htime => simp [htime]
  | @again k l x looks htime _ _ hrest ih =>
    have hle := hrest.le
    rw [List.map_cons, ih, htime, show l + 1 - k = l + 1 - (k + 1) + 1 by omega, List.range'_succ,
      List.map_cons]

theorem unchanged (hl : LooksFrom n t interval T k looks l) : ∀ x ∈ looks, x.after = x.before := by
  induction hl with
  | last _ hsame => exact List.forall_mem_singleton.mpr hsame
  | again _ hsame _ _ ih => exact List.forall_mem_cons.mpr ⟨hsame, ih⟩

/-- Only the last look ends them. -/
theorem ends_iff (hl : LooksFrom n t interval T k looks l) {i : Nat} {x : Step Host}
    (hx : looks[i]? = some x) : x.EndsLooks n (t + T) ↔ k + i = l := by
  induction hl generalizing i with
  | last _ _ hends =>
    cases i with
    | zero =>
      cases hx
      exact iff_of_true hends rfl
    | succ i => cases hx
  | again _ _ hgoes hrest ih =>
    have hle := hrest.le
    cases i with
    | zero =>
      cases hx
      exact iff_of_false hgoes (by omega)
    | succ i =>
      rw [ih hx]
      omega

/-- There is not more than one look in every interval, and one at the end. -/
theorem count_le (hinterval : 0 < interval) (hl : LooksFrom n t interval T k looks l)
    (hk : k ≤ (T + interval - 1) / interval) : l ≤ (T + interval - 1) / interval := by
  induction hl with
  | last => exact hk
  | again htime _ hgoes _ ih =>
    refine ih (lt_of_lookTime_lt (t := t) hinterval ?_)
    refine Nat.lt_of_le_of_ne (lookTime_le t interval T _) fun hover => ?_
    exact hgoes (.inr (htime.trans hover))

end LooksFrom

/-- What a look says is right: it is the last one, or the next one is in time. -/
theorem lookAtPending_lookTime {pending : Nat} (hinterval : 0 < interval) :
    lookAtPending interval (t + T) (lookTime t interval T k) pending =
      if pending = 0 then .answered
      else if lookTime t interval T k = t + T then .late pending
      else .again (lookTime t interval T (k + 1)) := by
  have hle := lookTime_le t interval T k
  unfold lookAtPending
  split
  · rfl
  split
  next hlate => rw [if_pos (Nat.le_antisymm hle hlate)]
  next hlate =>
    have hlt := Nat.lt_of_not_le hlate
    rw [if_neg (Nat.ne_of_lt hlt), Nat.max_eq_left hinterval, lookTime_succ hlt]

/-- The looks that are left are made one after the other, each in time, and the program goes on
right after the last one. -/
theorem waitForPending_punctual {left : Nat} {next : Nat → HostProgram β} {b : β}
    (hinterval : 0 < interval) (hleft : t + T < lookTime t interval T k + left)
    (hrun : ((waitForPending n interval (t + T) left).bind next).Punctual others
      (lookTime t interval T k) h steps (done b) u h') :
    ∃ xs ys l h₁, steps = xs ++ ys ∧ LooksFrom n t interval T k (xs.filter (·.own)) l ∧
      (h₁.pendingOf (lookTime t interval T l) n = 0 ∨ lookTime t interval T l = t + T) ∧
      (next (h₁.pendingOf (lookTime t interval T l) n)).Punctual others (lookTime t interval T l)
        h₁ ys (done b) u h' := by
  induction left generalizing k h steps with
  | zero => exact absurd hleft (Nat.not_lt.mpr (lookTime_le t interval T k))
  | succ left ih =>
    obtain ⟨rest, rfl, hrest⟩ := hrun.of_act_done
    dsimp only at hrest
    rw [lookAtPending_lookTime hinterval] at hrest
    by_cases hpending : h.pendingOf (lookTime t interval T k) n = 0
    · rw [if_pos hpending] at hrest
      have hends : (⟨true, lookTime t interval T k, h, h⟩ : Step Host).EndsLooks n (t + T) :=
        .inl hpending
      rw [← hpending] at hrest
      exact ⟨[_], rest, k, h, rfl, .last rfl rfl hends, hends, hrest⟩
    rw [if_neg hpending] at hrest
    by_cases hover : lookTime t interval T k = t + T
    · rw [if_pos hover] at hrest
      have hends : (⟨true, lookTime t interval T k, h, h⟩ : Step Host).EndsLooks n (t + T) :=
        .inr hover
      exact ⟨[_], rest, k, h, rfl, .last rfl rfl hends, hends, hrest⟩
    rw [if_neg hover] at hrest
    have hlt := Nat.lt_of_le_of_ne (lookTime_le t interval T k) hover
    have hlater := lookTime_succ hlt
    -- It sleeps until the next look, and what comes then is known.
    have hsleeps : ((sleepUntil (lookTime t interval T (k + 1))).bind fun _ =>
        (waitForPending n interval (t + T) left).bind next).Punctual others
          (lookTime t interval T k) h rest (done b) u h' := hrest
    obtain ⟨xs, ys, h₁, rfl, hothers, hnext⟩ := hsleeps.of_sleepUntil_done (by omega)
    obtain ⟨xs', ys', l, h₂, rfl, hlooks, hover', hgoes⟩ := ih (by omega) hnext
    have hown : xs.filter (·.own) = [] :=
      List.filter_eq_nil_iff.mpr fun x hx => by simp [hothers x hx]
    refine ⟨⟨true, lookTime t interval T k, h, h⟩ :: (xs ++ xs'), ys', l, h₂, by simp, ?_, hover',
      hgoes⟩
    rw [List.filter_cons_of_pos rfl, List.filter_append, hown, List.nil_append]
    exact .again rfl rfl (fun hends => hends.elim hpending hover) hlooks

/-! ## The wait of a drain -/

/-- The wait of a drain from `t` on for the pending requests of an instance, at its end. After
two questions it has looked at them every interval, and at the end of its time, until the `k`-th
look: only that one saw none or was made when the time was over. If there were any, they are
noted. -/
structure PendingCourse (id : String) (n interval T t : Nat) (steps : List (Step Host)) (u : Nat)
    (h' : Host) (k : Nat) : Prop where
  own : ∃ asked looks noted, steps.filter (·.own) = asked ++ looks ++ noted ∧
    asked.map (·.time) = [t, t] ∧
    looks.map (·.time) = (List.range (k + 1)).map (lookTime t interval T) ∧
    (∀ x ∈ asked ++ looks, x.after = x.before) ∧
    (∀ i x, looks[i]? = some x → (x.EndsLooks n (t + T) ↔ i = k)) ∧
    (h'.pendingOf u n = 0 ∧ noted = [] ∨ u = t + T ∧ h'.pendingOf u n ≠ 0 ∧ ∃ before : Host,
      h' = before.notice [.pendingAbandoned (.timeout id T (h'.pendingOf u n))] ∧
      noted = [⟨true, u, before, h'⟩])
  time : u = lookTime t interval T k
  count : k ≤ (T + interval - 1) / interval

theorem drainPending_timed (id : String) (n T : Nat) : (drainPending id n T).IsTimed := by
  have hw : (drainPending id n T).Works fun _ => False := drainPending_works id n T
  exact hw.timed

theorem drainPending_calm (id : String) (n T : Nat) : (drainPending id n T).IsCalm := by
  refine isCalm_bind (fun _ => trivial) fun interval => isCalm_bind (fun _ => trivial) fun _ => ?_
  refine isCalm_bind (waitForPending_calm _ _ _ _) fun left => ?_
  split
  · exact trivial
  · exact fun _ => trivial

theorem drainPending_course {id : String} (hinterval : 0 < h.settings.policy.drainPollIntervalMs)
    (hrun : (drainPending id n T).Punctual others t h steps (done ()) u h') :
    ∃ k, PendingCourse id n h.settings.policy.drainPollIntervalMs T t steps u h' k := by
  obtain ⟨rest, rfl, hnow⟩ := hrun.of_act_done
  obtain ⟨rest, rfl, hlook⟩ := hnow.of_act_done
  dsimp only at hlook
  generalize h.settings.policy.drainPollIntervalMs = interval at hinterval hlook ⊢
  have hlooking : ((waitForPending n interval (t + T) (T + 1)).bind fun left =>
      if left = 0 then done () else note (.pendingAbandoned (.timeout id T left))).Punctual others
      (lookTime t interval T 0) h rest (done ()) u h' := by
    rw [lookTime_zero]
    exact hlook
  obtain ⟨xs, ys, k, h₁, rfl, hlooks, hover, hnote⟩ :=
    waitForPending_punctual hinterval (by rw [lookTime_zero]; omega) hlooking
  have htimes : (xs.filter (·.own)).map (·.time) =
      (List.range (k + 1)).map (lookTime t interval T) := by
    rw [hlooks.times, Nat.sub_zero, List.range_eq_range']
  have hends : ∀ i x, (xs.filter (·.own))[i]? = some x → (x.EndsLooks n (t + T) ↔ i = k) := by
    intro i x hx
    rw [hlooks.ends_iff hx, Nat.zero_add]
  have hsame : ∀ x ∈ [⟨true, t, h, h⟩, ⟨true, t, h, h⟩] ++ xs.filter (·.own),
      x.after = x.before := by
    refine List.forall_mem_append.mpr ⟨by simp, hlooks.unchanged⟩
  have hown : ∀ zs : List (Step Host), (⟨true, t, h, h⟩ :: ⟨true, t, h, h⟩ :: (xs ++ zs)).filter
      (·.own) = [⟨true, t, h, h⟩, ⟨true, t, h, h⟩] ++ xs.filter (·.own) ++ zs.filter (·.own) := by
    intro zs
    simp
  have hcount := hlooks.count_le hinterval (Nat.zero_le _)
  split at hnote
  next hnone =>
    -- The last look saw none, and nothing is noted.
    obtain ⟨rfl, -, rfl, rfl⟩ := hnote.of_done
    exact ⟨k, ⟨_, _, [], hown [], rfl, htimes, hsame, hends, .inl ⟨hnone, rfl⟩⟩, rfl, hcount⟩
  next hsome =>
    obtain ⟨zs, rfl, hend⟩ := hnote.of_act_done
    obtain ⟨rfl, -, rfl, rfl⟩ := hend.of_done
    exact ⟨k, ⟨_, _, _, hown _, rfl, htimes, hsame, hends, .inr ⟨hover.resolve_left hsome, hsome,
      h₁, rfl, rfl⟩⟩, rfl, hcount⟩

namespace PendingCourse

variable {id : String}

theorem length_le (hc : PendingCourse id n interval T t steps u h' k) :
    (steps.filter (·.own)).length ≤ (T + interval - 1) / interval + 4 := by
  obtain ⟨asked, looks, noted, hown, hasked, hlooks, -, -, hnoted⟩ := hc.own
  have hasked' : asked.length = 2 := by simpa using congrArg List.length hasked
  have hlooks' : looks.length = k + 1 := by simpa using congrArg List.length hlooks
  have hnoted' : noted.length ≤ 1 := by
    rcases hnoted with ⟨-, rfl⟩ | ⟨-, -, before, -, rfl⟩ <;> simp
  have hcount := hc.count
  rw [hown, List.length_append, List.length_append]
  omega

/-- Where the number of pending requests depends on the time alone, the wait ends at the first
look at which there are none or the time is over. -/
theorem ends_iff (hc : PendingCourse id n interval T t steps u h' k) {count : Nat → Nat}
    (hcount : ∀ x ∈ steps, x.own = true → x.before.pendingOf x.time n = count x.time) {i : Nat}
    (hi : i ≤ k) :
    (count (lookTime t interval T i) = 0 ∨ lookTime t interval T i = t + T) ↔ i = k := by
  obtain ⟨asked, looks, noted, hown, -, htimes, -, hends, -⟩ := hc.own
  have htime := congrArg (·[i]?) htimes
  simp only [List.getElem?_map, List.getElem?_range (Nat.lt_succ_of_le hi), Option.map_some,
    Option.map_eq_some_iff] at htime
  obtain ⟨x, hx, hxtime⟩ := htime
  have hmem : x ∈ steps.filter (·.own) := by
    rw [hown]
    exact List.mem_append_left _ (List.mem_append_right _ (List.mem_of_getElem? hx))
  obtain ⟨hsteps, hxown⟩ := List.mem_filter.mp hmem
  rw [← hends i x hx, Step.EndsLooks, hcount x hsteps hxown, hxtime]

end PendingCourse

/-- Whatever others do, a wait for pending requests that is woken in time comes to its end, and
does so when the timeout is over at the latest. It looks at them at the times meant for that, as
often as there are intervals and once more at most, until the first look at which there are none
or the time is over. -/
theorem drainPending_looks {id : String} {q : HostProgram Unit}
    (hinterval : 0 < h.settings.policy.drainPollIntervalMs)
    (hrun : (drainPending id n T).Punctual others t h steps q u h') :
    (∃ more v h'', q.Punctual others u h' more (done ()) v h'') ∧
      (∀ message, q ≠ breakDown message) ∧ u ≤ t + T ∧
      (steps.filter (·.own)).length ≤ (T + h.settings.policy.drainPollIntervalMs - 1) /
        h.settings.policy.drainPollIntervalMs + 4 ∧
      (q = done () → ∃ k,
        PendingCourse id n h.settings.policy.drainPollIntervalMs T t steps u h' k ∧
        ∀ count : Nat → Nat,
          (∀ x ∈ steps, x.own = true → x.before.pendingOf x.time n = count x.time) →
          ∀ i ≤ k, let time := lookTime t h.settings.policy.drainPollIntervalMs T i
            (count time = 0 ∨ time = t + T ↔ i = k)) := by
  have hcalm : ∀ {steps message u h'}, ¬(drainPending id n T).Punctual others t h steps
      (breakDown message) u h' := fun hbreaks => (drainPending_calm id n T).run hbreaks.run
  -- The run can be continued to its end, and the course of the whole bounds every part.
  have hq : q.IsTimed := (drainPending_timed id n T).run hrun.run
  obtain ⟨more, r, v, h'', hmore⟩ : ∃ more r v h'', q.Punctual others u h' more (ended r) v h'' :=
    hq.punctual_ends u h'
  have hall := hrun.trans hmore
  cases r with
  | error message => exact absurd hall hcalm
  | ok _ =>
    obtain ⟨k, hcourse⟩ := drainPending_course hinterval hall
    refine ⟨⟨more, v, h'', hmore⟩, ?_, ?_, ?_, ?_⟩
    · rintro message rfl
      exact hcalm hrun
    · have htime := hmore.time_le
      rw [hcourse.time] at htime
      exact Nat.le_trans htime (lookTime_le _ _ _ _)
    · refine Nat.le_trans ?_ hcourse.length_le
      rw [List.filter_append, List.length_append]
      exact Nat.le_add_right _ _
    · rintro rfl
      obtain ⟨k, hcourse⟩ := drainPending_course hinterval hrun
      exact ⟨k, hcourse, fun count hcount i hi => hcourse.ends_iff hcount hi⟩

/-- The busy host, whose pending request is never answered, with looks every 20
milliseconds. -/
def Host.busyPolled : Host :=
  { Host.busyRegistered with
    settings := { Host.busyRegistered.settings with
      policy := { LifecyclePolicy.default with drainPollIntervalMs := 20 } } }

/-- For 50 milliseconds the busy host is looked at every 20 milliseconds, and once more at the
end. -/
theorem drainPending_looks_busy :
    let run := (drainPending "a" 0 50).alone 7 .busyPolled
    run.2.1 = done () ∧ run.2.2.1 = 57 ∧
      (run.1.filter (·.own)).map (·.time) = [7, 7, 7, 27, 47, 57, 57] ∧
      ∃ k, PendingCourse "a" 0 20 50 7 run.1 57 run.2.2.2 k := by
  have hvalue : ((drainPending "a" 0 50).alone 7 .busyPolled).2.1.value? = some () := by
    decide +kernel
  have htime : ((drainPending "a" 0 50).alone 7 .busyPolled).2.2.1 = 57 := by decide +kernel
  have hdone := eq_done_of_value? hvalue
  have hrun : (drainPending "a" 0 50).Punctual Undisturbed 7 .busyPolled _ _ _ _ :=
    alone_punctual (drainPending "a" 0 50) 7 .busyPolled
  obtain ⟨-, -, -, -, hlooks⟩ := drainPending_looks (by decide) hrun
  obtain ⟨k, hcourse, -⟩ := hlooks hdone
  rw [htime] at hcourse
  exact ⟨hdone, htime, by decide +kernel, k, hcourse⟩

end ExtensionHost
