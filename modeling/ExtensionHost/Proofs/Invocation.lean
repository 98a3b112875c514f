import ExtensionHost.Instantiation
import Mathlib.Data.List.Nodup
import Mathlib.Data.List.Pairwise

/-!
# Which constructors are invoked

An instantiation tries constructors tier by tier, and as they are declared inside a
tier. Written as one list, that is every constructor with as many parameters as there
are arguments, stably sorted by how well the arguments fit; the constructors invoked
are the prefix of that list that ends with the first that does not fail. Passing over all
constructors once for each tier comes to the same trial: nobody is left out and nobody is
tried again.
-/

namespace ExtensionHost

/-! ## Stable sorting by a number -/

section StableSort

variable {α : Type} {key : α → Nat}

/-- A stable sort leaves those with the same number as they were. -/
theorem filter_mergeSort (l : List α) (k : Nat) :
    (l.mergeSort fun a b => key a ≤ key b).filter (key · == k) = l.filter (key · == k) := by
  have hkept : (l.filter (key · == k)).Sublist (l.mergeSort fun a b => key a ≤ key b) := by
    refine List.sublist_mergeSort ?_ ?_ ?_ List.filter_sublist
    · intro a b c hab hbc
      simp only [decide_eq_true_eq] at hab hbc ⊢
      omega
    · intro a b
      simp only [Bool.or_eq_true, decide_eq_true_eq]
      omega
    · refine List.pairwise_of_forall_mem_list fun a ha b hb => ?_
      simp only [List.mem_filter, beq_iff_eq] at ha hb
      simp [ha.2, hb.2]
  have hsub := hkept.filter (key · == k)
  rw [List.filter_filter] at hsub
  simp only [Bool.and_self] at hsub
  -- as long as one another, since sorting only permutes
  have hlength := ((List.mergeSort_perm l fun a b => key a ≤ key b).filter (key · == k)).length_eq
  exact (hsub.eq_of_length hlength.symm).symm

/-- Two sorted lists are the same, if they hold the same in the same order under every
number. -/
theorem eq_of_pairwise_of_filter {l l' : List α} (hl : l.Pairwise fun a b => key a ≤ key b)
    (hl' : l'.Pairwise fun a b => key a ≤ key b)
    (h : ∀ k, l.filter (key · == k) = l'.filter (key · == k)) : l = l' := by
  have hmem : ∀ x, x ∈ l ↔ x ∈ l' := by
    intro x
    have hx := congrArg (x ∈ ·) (h (key x))
    simpa using hx
  induction l generalizing l' with
  | nil =>
    refine (List.eq_nil_iff_forall_not_mem.mpr fun x hx => ?_).symm
    simpa using (hmem x).mpr hx
  | cons a l ih =>
    cases l' with
    | nil => simpa using (hmem a).mp (by simp)
    | cons b l' =>
      -- each of the two heads has the least number
      have hkey : key a = key b := by
        have hab : key a ≤ key b := by
          rcases List.mem_cons.mp ((hmem b).mpr (by simp)) with rfl | hb
          · exact Nat.le_refl _
          · exact List.rel_of_pairwise_cons hl hb
        have hba : key b ≤ key a := by
          rcases List.mem_cons.mp ((hmem a).mp (by simp)) with rfl | ha
          · exact Nat.le_refl _
          · exact List.rel_of_pairwise_cons hl' ha
        omega
      have hhead := h (key a)
      simp only [List.filter_cons, beq_self_eq_true, if_true, hkey] at hhead
      obtain ⟨rfl, -⟩ := List.cons.inj hhead
      have htail : ∀ k, l.filter (key · == k) = l'.filter (key · == k) := by
        intro k
        have hk := h k
        simp only [List.filter_cons] at hk
        split at hk
        · exact (List.cons.inj hk).2
        · exact hk
      have hmemtail : ∀ x, x ∈ l ↔ x ∈ l' := by
        intro x
        have hx := congrArg (x ∈ ·) (htail (key x))
        simpa using hx
      rw [ih hl.of_cons hl'.of_cons htail hmemtail]

/-- Those with one number hold none with another. -/
theorem filter_filter_key (l : List α) (j k : Nat) :
    (l.filter (key · == j)).filter (key · == k) = if j = k then l.filter (key · == k) else [] := by
  split
  case isTrue h => simp [h]
  case isFalse h =>
    rw [List.filter_eq_nil_iff]
    intro a ha
    simp only [List.mem_filter, beq_iff_eq] at ha ⊢
    omega

/-- Among those with a number below a bound, one number after the other, are all with a
certain number below the bound. -/
theorem filter_flatMap_filter (l : List α) (n k : Nat) :
    ((List.range n).flatMap fun j => l.filter (key · == j)).filter (key · == k) =
      if k < n then l.filter (key · == k) else [] := by
  induction n with
  | zero => simp
  | succ n ih =>
    rw [List.range_succ, List.flatMap_append, List.filter_append, ih, List.flatMap_singleton,
      filter_filter_key]
    rcases Nat.lt_trichotomy k n with hlt | rfl | hgt
    · simp [hlt, Nat.lt_succ_of_lt hlt, Nat.ne_of_gt hlt]
    · simp
    · simp [Nat.not_lt.mpr (Nat.le_of_lt hgt), Nat.not_lt.mpr hgt, Nat.ne_of_lt hgt]

/-- Sorting by a number below a bound puts those with one number behind those with the
number before. -/
theorem mergeSort_eq_flatMap_filter {n : Nat} {l : List α} (h : ∀ a ∈ l, key a < n) :
    (l.mergeSort fun a b => key a ≤ key b) =
      (List.range n).flatMap fun k => l.filter (key · == k) := by
  have hsorted : (l.mergeSort fun a b => key a ≤ key b).Pairwise fun a b => key a ≤ key b := by
    have htrans : ∀ a b c : α, decide (key a ≤ key b) = true → decide (key b ≤ key c) = true →
        decide (key a ≤ key c) = true := by
      simp only [decide_eq_true_eq]
      omega
    have htotal : ∀ a b : α, (decide (key a ≤ key b) || decide (key b ≤ key a)) = true := by
      simp only [Bool.or_eq_true, decide_eq_true_eq]
      omega
    simpa using List.pairwise_mergeSort htrans htotal l
  refine eq_of_pairwise_of_filter hsorted ?_ ?_
  · rw [List.pairwise_flatMap]
    constructor
    · intro k _
      refine List.pairwise_of_forall_mem_list fun a ha b hb => ?_
      simp only [List.mem_filter, beq_iff_eq] at ha hb
      omega
    · refine List.pairwise_lt_range.imp fun hlt a ha b hb => ?_
      simp only [List.mem_filter, beq_iff_eq] at ha hb
      omega
  · intro k
    rw [filter_mergeSort, filter_flatMap_filter]
    split
    · rfl
    · next hge =>
      rw [List.filter_eq_nil_iff]
      intro a ha hk
      have := h a ha
      rw [beq_iff_eq] at hk
      omega

end StableSort

/-! ## The order of trial -/

/-- How well the arguments fit a constructor, as a number: nothing where they fit exactly,
one where they fit after a conversion, two where they do not. -/
def Constructor.rank (args : List DependencyValue) (c : Constructor) : Nat :=
  if Tier.exact.fits c.params args then 0
  else if Tier.compatible.fits c.params args then 1
  else 2

/-- The constructors, with their positions, that have as many parameters as there are
arguments, stably sorted by how well the arguments fit. -/
def Factory.ranked (f : Factory) (args : List DependencyValue) : List (Constructor × Nat) :=
  (f.constructors.zipIdx.filter fun c => c.1.params.length == args.length).mergeSort
    fun a b => a.1.rank args ≤ b.1.rank args

/-- The rank of a tier. -/
def Tier.rank : Tier → Nat
  | .exact => 0
  | .compatible => 1
  | .arity => 2

/-- The first tier that fits is the one of the rank, among constructors of the arity. -/
theorem tierOf?_eq_some_iff {c : Constructor} {args : List DependencyValue} {t : Tier} :
    tierOf? c.params args = some t ↔ c.params.length = args.length ∧ c.rank args = t.rank := by
  have hexact : Tier.exact.fits c.params args = true → Tier.compatible.fits c.params args = true :=
    fits_compatible_of_fits_exact
  have hcompatible : Tier.compatible.fits c.params args = true →
      Tier.arity.fits c.params args = true := fits_arity_of_fits_compatible
  rw [← fits_arity]
  simp only [tierOf?, Tier.all, Constructor.rank, List.find?_cons]
  cases he : Tier.exact.fits c.params args <;> cases hc : Tier.compatible.fits c.params args <;>
    cases ha : Tier.arity.fits c.params args <;> cases t <;> simp_all [Tier.rank]

/-- A candidate without its tier. -/
def Candidate.declared (c : Candidate) : Constructor × Nat :=
  (c.constructor, c.position)

/-- The candidates of a tier are the constructors whose first tier it is. -/
theorem fitting_filter_tier (f : Factory) (args : List DependencyValue) (t : Tier) :
    (f.fitting args).filter (·.tier == t) =
      (f.constructors.zipIdx.filter fun c => tierOf? c.1.params args == some t).map
        fun c => ⟨c.2, t, c.1⟩ := by
  simp only [Factory.fitting, Constructor.candidate?]
  induction f.constructors.zipIdx with
  | nil => rfl
  | cons c cs ih =>
    cases ht : tierOf? c.1.params args with
    | none => simp [ht, ih]
    | some t' => by_cases htt : t' = t <;> simp [ht, htt, ih]

/-- Without their tiers, the candidates are the constructors of the arity in the order of
their ranks. -/
theorem candidates_declared (f : Factory) (args : List DependencyValue) :
    (f.candidates args).map (·.declared) = f.ranked args := by
  have hrank : ∀ c ∈ f.constructors.zipIdx.filter
      (fun c => c.1.params.length == args.length), c.1.rank args < 3 := by
    intro c _
    unfold Constructor.rank
    (repeat' split) <;> decide
  have htier : ∀ t : Tier, ((f.fitting args).filter (·.tier == t)).map (·.declared) =
      (f.constructors.zipIdx.filter fun c => c.1.params.length == args.length).filter
        (fun c => c.1.rank args == t.rank) := by
    intro t
    have hsame : ∀ c : Constructor × Nat, (tierOf? c.1.params args == some t) =
        (c.1.rank args == t.rank && c.1.params.length == args.length) := by
      intro c
      rw [Bool.eq_iff_iff, beq_iff_eq, tierOf?_eq_some_iff, Bool.and_eq_true, beq_iff_eq,
        beq_iff_eq, and_comm]
    rw [fitting_filter_tier, List.map_map, List.filter_filter]
    simp [Function.comp_def, Candidate.declared, hsame]
  rw [Factory.ranked, mergeSort_eq_flatMap_filter hrank]
  simp [Factory.candidates, Tier.all, List.range_succ, htier, Tier.rank]

/-- A candidate is a constructor of the factory, in the first tier that the arguments fit. -/
theorem mem_candidates {f : Factory} {args : List DependencyValue} {c : Candidate}
    (h : c ∈ f.candidates args) :
    f.constructors[c.position]? = some c.constructor ∧
      tierOf? c.constructor.params args = some c.tier := by
  obtain ⟨t, -, hc⟩ := List.mem_flatMap.mp h
  obtain ⟨⟨declared, position⟩, hmem, hcandidate⟩ :=
    List.mem_filterMap.mp (List.mem_of_mem_filter hc)
  obtain ⟨tier, htier, rfl⟩ := Option.map_eq_some_iff.mp hcandidate
  exact ⟨List.mem_zipIdx_iff_getElem?.mp hmem, htier⟩

/-! ## Trying one after the other -/

/-- A list up to its first member with a property, and that member too. -/
def upToFirst {α : Type} (p : α → Bool) : List α → List α
  | [] => []
  | a :: l => if p a then [a] else a :: upToFirst p l

theorem upToFirst_sublist {α : Type} (p : α → Bool) (l : List α) :
    (upToFirst p l).Sublist l := by
  induction l with
  | nil => exact List.Sublist.refl _
  | cons a l ih =>
    unfold upToFirst
    split
    · exact (List.nil_sublist l).cons_cons a
    · exact ih.cons_cons a

/-- The arguments as a constructor receives them, each converted to the parameter in its
place. -/
def Constructor.received (c : Constructor) (args : List DependencyValue) : List DependencyValue :=
  c.params.zipWith ParamType.coerce args

/-- Constructors invoked one after another, after earlier ones: the invocation of each, and
what comes of it where all before it have been invoked. -/
def attempts (d : Descriptor) (args : List DependencyValue) :
    List (Constructor × Nat) → List Invocation → List (Invocation × Construction)
  | [], _ => []
  | (c, position) :: cs, earlier =>
    let invocation : Invocation := ⟨position, c.received args⟩
    (invocation, (c.build d invocation.arguments).after earlier) ::
      attempts d args cs (invocation :: earlier)

theorem attempts_map_fst (d : Descriptor) (args : List DependencyValue)
    (cs : List (Constructor × Nat)) (earlier : List Invocation) :
    (attempts d args cs earlier).map (·.1) = cs.map fun c => ⟨c.2, c.1.received args⟩ := by
  induction cs generalizing earlier with
  | nil => rfl
  | cons c cs ih => rw [attempts, List.map_cons, List.map_cons, ih]

theorem coerceArguments_eq_zipWith (params : List ParamType) (args : List DependencyValue) :
    coerceArguments params args = params.zipWith ParamType.coerce args := by
  induction params generalizing args with
  | nil => cases args <;> rfl
  | cons p ps ih => cases args <;> simp [coerceArguments, ih]

theorem Candidate.invocation_eq (c : Candidate) (args : List DependencyValue) :
    c.invocation args = ⟨c.declared.2, c.declared.1.received args⟩ := by
  rw [Candidate.invocation, coerceArguments_eq_zipWith]
  rfl

theorem attempts_declared_cons (d : Descriptor) (args : List DependencyValue) (c : Candidate)
    (cs : List (Constructor × Nat)) (earlier : List Invocation) :
    attempts d args (c.declared :: cs) earlier =
      (c.invocation args, c.invoke earlier d args) ::
        attempts d args cs (c.invocation args :: earlier) := by
  rw [Candidate.invocation_eq, Candidate.invoke, coerceArguments_eq_zipWith]
  rfl

/-- Candidates are invoked up to the first that does not fail. -/
theorem tryCandidates_invoked (d : Descriptor) (args : List DependencyValue)
    (cs : List Candidate) (earlier : List Invocation) :
    (tryCandidates d args cs earlier).invoked =
      (upToFirst (fun a => a.2.settled?.isSome)
        (attempts d args (cs.map (·.declared)) earlier)).map (·.1) := by
  induction cs generalizing earlier with
  | nil => rfl
  | cons c cs ih =>
    rw [List.map_cons, attempts_declared_cons]
    cases hc : c.invoke earlier d args <;>
      simp [tryCandidates, Candidate.tryThen, upToFirst, Construction.settled?, hc, ih]

/-- A trial is settled by the first candidate that does not fail. -/
theorem tryCandidates_settled (d : Descriptor) (args : List DependencyValue)
    (cs : List Candidate) (earlier : List Invocation) :
    (tryCandidates d args cs earlier).settled =
      (attempts d args (cs.map (·.declared)) earlier).findSome? fun a => a.2.settled? := by
  induction cs generalizing earlier with
  | nil => rfl
  | cons c cs ih =>
    rw [List.map_cons, attempts_declared_cons]
    cases hc : c.invoke earlier d args <;>
      simp [tryCandidates, Candidate.tryThen, Construction.settled?, hc, ih]

/-- What settles a trial is what the last candidate that was invoked came to, after all
those that were tried before it. -/
theorem tryCandidates_last {d : Descriptor} {args : List DependencyValue} {cs : List Candidate}
    {earlier : List Invocation} {settled : Except String Blueprint}
    (h : (tryCandidates d args cs earlier).settled = some settled) :
    ∃ c ∈ cs, ∃ tried,
      (c.invoke (tried.reverse ++ earlier) d args).settled? = some settled ∧
        (tryCandidates d args cs earlier).invoked = tried ++ [c.invocation args] := by
  induction cs generalizing earlier with
  | nil => cases h
  | cons c cs ih =>
    rw [tryCandidates, Candidate.tryThen] at h ⊢
    cases hc : c.invoke earlier d args with
    | made | brokeDown =>
      rw [hc] at h
      exact ⟨c, List.mem_cons_self, [], hc ▸ h, rfl⟩
    | failed e =>
      rw [hc] at h
      obtain ⟨c', hc', tried, hsettled, hinvoked⟩ := ih h
      refine ⟨c', List.mem_cons_of_mem c hc', c.invocation args :: tried, ?_, ?_⟩
      · simpa using hsettled
      · simp [hinvoked]

/-! ## Pass after pass -/

/-- Those that a pass invokes, unless it ends before. -/
def untried (args : List DependencyValue) (tier : Tier) (cs : List (Constructor × Nat))
    (tried : List Nat) : List (Constructor × Nat) :=
  cs.filter fun c => !tried.contains c.2 && tier.fits c.1.params args

/-- A pass tries those that are untried, and hands on that they are tried now. -/
theorem passTier_eq {d : Descriptor} {args : List DependencyValue} {tier : Tier}
    {next : List Nat → List Invocation → Trial} {cs : List (Constructor × Nat)}
    (hpositions : (cs.map (·.2)).Nodup) (tried : List Nat) :
    passTier d args tier next cs tried =
      ((untried args tier cs tried).map fun c => (⟨c.2, tier, c.1⟩ : Candidate)).foldr
        (fun c next earlier => c.tryThen earlier d args next)
        (next (((untried args tier cs tried).map (·.2)).reverse ++ tried)) := by
  induction cs generalizing tried with
  | nil => rfl
  | cons c cs ih =>
    funext earlier
    obtain ⟨c, position⟩ := c
    obtain ⟨hnew, hpositions⟩ := List.nodup_cons.mp hpositions
    -- the position is nobody else's, so that it does not matter to the rest of the pass
    have hother : untried args tier cs (position :: tried) = untried args tier cs tried := by
      apply List.filter_congr
      intro c' hc'
      have hne : c'.2 ≠ position := by
        intro heq
        exact hnew (List.mem_map.mpr ⟨c', hc', heq⟩)
      simp [hne]
    by_cases htry : (tried.contains position || !tier.fits c.params args) = true
    · have hskip : untried args tier ((c, position) :: cs) tried = untried args tier cs tried := by
        simp only [Bool.or_eq_true, Bool.not_eq_true'] at htry
        rcases htry with htried | hfits
        · simp [untried, List.elem_iff.mp htried]
        · simp [untried, hfits]
      rw [passTier, if_pos htry, hskip, ih hpositions]
    · have htake : untried args tier ((c, position) :: cs) tried =
          (c, position) :: untried args tier cs tried := by
        simp only [Bool.or_eq_true, Bool.not_eq_true', not_or, Bool.not_eq_false,
          Bool.not_eq_true] at htry
        rw [untried, List.filter_cons_of_pos (by simp only [htry.1, htry.2]; rfl)]
        rfl
      rw [passTier, if_neg htry, htake, ih hpositions, hother]
      simp

/-- Among distinct members, one is the first with a property if it has the property and
none in front of it has. -/
theorem find?_eq_some_iff_of_nodup {α : Type} {p : α → Bool} {front back : List α} {a : α}
    (h : (front ++ a :: back).Nodup) :
    (front ++ a :: back).find? p = some a ↔ p a = true ∧ ∀ b ∈ front, ¬p b = true := by
  have hfront : a ∉ front := fun ha => (List.nodup_append.mp h).2.2 a ha a (by simp) rfl
  have hback : a ∉ back := (List.nodup_cons.mp (List.nodup_append.mp h).2.1).1
  rw [List.find?_append]
  cases hfind : front.find? p with
  | some b =>
    have hb := List.mem_of_find?_eq_some hfind
    have hpb := List.find?_some hfind
    constructor
    · intro heq
      have hab : b = a := Option.some.inj heq
      exact absurd (hab ▸ hb) hfront
    · intro hall
      exact absurd hpb (hall.2 b hb)
  | none =>
    have hnone := List.find?_eq_none.mp hfind
    rw [Option.none_or, List.find?_cons]
    cases hpa : p a with
    | true => simpa using hnone
    | false =>
      have hmem : back.find? p ≠ some a := fun hb => hback (List.mem_of_find?_eq_some hb)
      simpa using hmem

/-- The passes try every constructor that fits in some tier, and try it in the first tier
that it fits in. Before each pass the positions that have been tried are those of the
constructors that fit in a tier before. -/
theorem passTiers_eq {d : Descriptor} {args : List DependencyValue}
    {cs : List (Constructor × Nat)} (hpositions : (cs.map (·.2)).Nodup)
    {done tiers : List Tier} (hall : (done ++ tiers).Nodup) {tried : List Nat}
    (htried : ∀ c ∈ cs, c.2 ∈ tried ↔ ∃ t ∈ done, t.fits c.1.params args = true) :
    passTiers d args cs tiers tried =
      tryCandidates d args (tiers.flatMap fun t =>
        (cs.filter fun c => (done ++ tiers).find? (·.fits c.1.params args) == some t).map
          fun c => ⟨c.2, t, c.1⟩) := by
  induction tiers generalizing done tried with
  | nil => rfl
  | cons tier tiers ih =>
    have hsplit : done ++ tier :: tiers = (done ++ [tier]) ++ tiers := by simp
    have hfirst : untried args tier cs tried =
        cs.filter fun c => (done ++ tier :: tiers).find? (·.fits c.1.params args) == some tier := by
      apply List.filter_congr
      intro c hc
      have hnew : (!tried.contains c.2) = true ↔
          ∀ t ∈ done, ¬t.fits c.1.params args = true := by
        simp [htried c hc]
      rw [Bool.eq_iff_iff, beq_iff_eq, find?_eq_some_iff_of_nodup hall, Bool.and_eq_true, hnew,
        and_comm]
    have htried' : ∀ c ∈ cs, c.2 ∈ ((untried args tier cs tried).map (·.2)).reverse ++ tried ↔
        ∃ t ∈ done ++ [tier], t.fits c.1.params args = true := by
      intro c hc
      have hown : c.2 ∈ (untried args tier cs tried).map (·.2) ↔
          c ∈ untried args tier cs tried := by
        constructor
        · intro h
          obtain ⟨c', hc', heq⟩ := List.mem_map.mp h
          have hmem : c' ∈ cs := (List.mem_filter.mp hc').1
          rwa [List.inj_on_of_nodup_map hpositions hmem hc heq] at hc'
        · intro h
          exact List.mem_map_of_mem h
      have hbefore := htried c hc
      rw [List.mem_append, List.mem_reverse, hown, untried, List.mem_filter, hbefore]
      simp only [hc, true_and, Bool.and_eq_true, Bool.not_eq_true', List.mem_append,
        List.mem_singleton]
      constructor
      · rintro (⟨_, h⟩ | ⟨t, ht, h⟩)
        · exact ⟨tier, .inr rfl, h⟩
        · exact ⟨t, .inl ht, h⟩
      · rintro ⟨t, ht | rfl, h⟩
        · exact .inr ⟨t, ht, h⟩
        · by_cases htried : c.2 ∈ tried
          · exact .inr (hbefore.mp htried)
          · exact .inl ⟨by simpa using htried, h⟩
    funext earlier
    rw [passTiers, passTier_eq hpositions, ih (hsplit ▸ hall) htried', ← tryCandidates_append,
      ← hsplit, List.flatMap_cons, hfirst]

/-- No two constructors stand at one position. -/
theorem Factory.positions_nodup (f : Factory) : (f.constructors.zipIdx.map (·.2)).Nodup := by
  rw [List.zipIdx_map_snd]
  exact List.nodup_range'

/-- The passes over all constructors come to the same as trying the candidates in their
order. -/
theorem passTiers_eq_tryCandidates (f : Factory) (d : Descriptor)
    (args : List DependencyValue) :
    passTiers d args f.constructors.zipIdx Tier.all [] =
      tryCandidates d args (f.candidates args) := by
  -- before the first pass no tier is done, and no constructor has been tried
  have hall : ([] ++ Tier.all).Nodup := by decide
  have htried : ∀ c ∈ f.constructors.zipIdx,
      c.2 ∈ ([] : List Nat) ↔ ∃ t ∈ ([] : List Tier), t.fits c.1.params args = true := by simp
  rw [passTiers_eq f.positions_nodup hall htried]
  simp only [Factory.candidates, fitting_filter_tier]
  rfl

/-! ## Instantiation -/

/-- Ranking permutes, so that the positions stay distinct. -/
theorem ranked_positions_nodup (f : Factory) (args : List DependencyValue) :
    ((f.ranked args).map (·.2)).Nodup := by
  have hkept : ((f.constructors.zipIdx.filter
      fun c => c.1.params.length == args.length).map (·.2)).Nodup :=
    f.positions_nodup.sublist (List.filter_sublist.map Prod.snd)
  have hperm : (f.ranked args).Perm
      (f.constructors.zipIdx.filter fun c => c.1.params.length == args.length) :=
    List.mergeSort_perm _ _
  exact (hperm.map Prod.snd).nodup_iff.mpr hkept

/-- An instantiation invokes those that its trial does. -/
theorem instantiate_invoked (syntheticFallback : Bool) (f : Factory) (d : Descriptor)
    (args : List DependencyValue) (earlier : List Invocation) :
    (instantiate syntheticFallback f d args earlier).invoked =
      (tryCandidates d args (f.candidates args) earlier).invoked := by
  simp only [instantiate]
  (repeat' split) <;> rfl

/-- The constructors that an instantiation invokes are those with as many parameters as
there are arguments, stably sorted by the first tier that the arguments fit in, up to the
first that does not fail; each receives the arguments converted to its own parameters and
sees those invoked before it, and none is invoked twice. What that one made is the result,
or the instantiation breaks down with it. If all fail, the result is the synthetic
extension if that may stand in, and else the error that no constructor was usable. Passing
over all constructors once for each tier, and leaving out those that have been tried, comes
to the same trial. -/
theorem instantiate_invokes_in_order (syntheticFallback : Bool) (f : Factory) (d : Descriptor)
    (args : List DependencyValue) (earlier : List Invocation) :
    let made := instantiate syntheticFallback f d args earlier
    let trial := tryCandidates d args (f.candidates args) earlier
    let tried := attempts d args (f.ranked args) earlier
    let settled := tried.findSome? fun a => a.2.settled?
    tried.map (·.1) = (f.ranked args).map (fun c => ⟨c.2, c.1.received args⟩) ∧
      made.invoked = (upToFirst (fun a => a.2.settled?.isSome) tried).map (·.1) ∧
      (made.invoked.map (·.position)).Nodup ∧
      (∀ blueprint, settled = some (.ok blueprint) →
        made.outcome = .ok blueprint ∧ made.brokeDown = none) ∧
      (∀ message, settled = some (.error message) → made.brokeDown = some message) ∧
      (settled = none → made.brokeDown = none ∧
        made.outcome =
          if syntheticFallback then .ok (.synthetic d)
          else .error (.noUsableConstructor d.id f.entryPoint (trial.reason f args))) ∧
      passTiers d args f.constructors.zipIdx Tier.all [] earlier = trial := by
  intro made trial tried settled
  have hall := attempts_map_fst d args (f.ranked args) earlier
  have hinvoked : made.invoked =
      (upToFirst (fun a => a.2.settled?.isSome) tried).map (·.1) := by
    rw [instantiate_invoked, tryCandidates_invoked, candidates_declared]
  have hsettled : trial.settled = settled := by
    rw [tryCandidates_settled, candidates_declared]
  have hpasses := congrFun (passTiers_eq_tryCandidates f d args) earlier
  refine ⟨hall, hinvoked, ?_, ?_, ?_, ?_, hpasses⟩
  · have hpositions : (tried.map (·.1)).map (·.position) = (f.ranked args).map (·.2) := by
      rw [hall, List.map_map]
      rfl
    have hprefix := ((upToFirst_sublist (fun a => a.2.settled?.isSome) tried).map
      (·.1)).map (·.position)
    rw [hinvoked]
    exact (hpositions ▸ ranked_positions_nodup f args).sublist hprefix
  · intro blueprint hfirst
    have hwon : trial.settled = some (.ok blueprint) := hsettled.trans hfirst
    simp only [made, instantiate, trial] at hwon ⊢
    simp only [hwon, and_self]
  · intro message hfirst
    have hbroke : trial.settled = some (.error message) := hsettled.trans hfirst
    simp only [made, instantiate, trial] at hbroke ⊢
    simp only [hbroke]
  · intro hfirst
    have hnone : trial.settled = none := hsettled.trans hfirst
    simp only [made, instantiate, trial] at hnone ⊢
    simp only [hnone]
    split <;> exact ⟨rfl, rfl⟩

end ExtensionHost
