import ExtensionHost.Proofs.Conversion
import Mathlib.Logic.Function.Iterate

/-!
# Envelopes around arguments

An envelope marks a value as a default. A parameter that takes a value after a conversion does
not see envelopes, and neither does the conversion: arguments that are the same below their
envelopes are converted to the same, and fit in the same tiers, the exact one apart. So an
envelope can only change the order in which constructors are tried, and what each of them
receives when it is tried stays the same.
-/

namespace ExtensionHost

/-! ## One value -/

/-- However many envelopes are put around a value, the same is below them. -/
theorem DependencyValue.unwrapped_envelopes (v : DependencyValue) (n : Nat) :
    (default^[n] v).unwrapped = v.unwrapped := by
  induction n with
  | zero => rfl
  | succ n ih =>
    rw [Function.iterate_succ_apply']
    exact ih

@[simp] theorem ParamType.acceptsCompatible_unwrapped (p : ParamType) (v : DependencyValue) :
    p.acceptsCompatible v.unwrapped = p.acceptsCompatible v := by
  simp [acceptsCompatible]

@[simp] theorem ParamType.coerce?_unwrapped (p : ParamType) (v : DependencyValue) :
    p.coerce? v.unwrapped = p.coerce? v := by
  simp [coerce?]

@[simp] theorem ParamType.coerce_unwrapped (p : ParamType) (v : DependencyValue) :
    p.coerce v.unwrapped = p.coerce v := by
  simp [coerce]

/-! ## Lists of arguments -/

/-- The arguments without their envelopes. -/
def bareArguments (args : List DependencyValue) : List DependencyValue :=
  args.map (·.unwrapped)

@[simp] theorem bareArguments_cons (v : DependencyValue) (vs : List DependencyValue) :
    bareArguments (v :: vs) = v.unwrapped :: bareArguments vs := rfl

theorem length_bareArguments (args : List DependencyValue) :
    (bareArguments args).length = args.length :=
  List.length_map _

theorem acceptsEach_bareArguments {accepts : ParamType → DependencyValue → Bool}
    (h : ∀ p v, accepts p v.unwrapped = accepts p v) (ps : List ParamType)
    (vs : List DependencyValue) :
    acceptsEach accepts ps (bareArguments vs) = acceptsEach accepts ps vs := by
  induction ps generalizing vs with
  | nil => cases vs <;> rfl
  | cons p ps ih =>
    cases vs with
    | nil => rfl
    | cons v vs => rw [bareArguments_cons, acceptsEach, acceptsEach, h, ih]

/-- Every tier but the exact one passes over envelopes. -/
theorem Tier.fits_bareArguments {t : Tier} (ht : t ≠ .exact) (ps : List ParamType)
    (vs : List DependencyValue) : t.fits ps (bareArguments vs) = t.fits ps vs := by
  cases t with
  | exact => exact absurd rfl ht
  | compatible => exact acceptsEach_bareArguments ParamType.acceptsCompatible_unwrapped ps vs
  | arity => exact acceptsEach_bareArguments (fun _ _ => rfl) ps vs

theorem coerceArguments_bareArguments (ps : List ParamType) (vs : List DependencyValue) :
    coerceArguments ps (bareArguments vs) = coerceArguments ps vs := by
  rw [coerceArguments_eq_zipWith, coerceArguments_eq_zipWith, bareArguments,
    List.zipWith_map_right]
  simp only [ParamType.coerce_unwrapped]

theorem coercionNotices_bareArguments (id : String) (ps : List ParamType)
    (vs : List DependencyValue) :
    coercionNotices id ps (bareArguments vs) = coercionNotices id ps vs := by
  induction ps generalizing vs with
  | nil => cases vs <;> rfl
  | cons p ps ih =>
    cases vs with
    | nil => rfl
    | cons v vs =>
      rw [bareArguments_cons, coercionNotices, coercionNotices, p.coerce?_unwrapped,
        v.unwrapped_unwrapped, ih]

/-! ## Tiers -/

/-- What fits in a tier fits in every worse one. -/
theorem Tier.fits_of_rank_le {t t' : Tier} (h : t.rank ≤ t'.rank) {ps : List ParamType}
    {vs : List DependencyValue} (hfits : t.fits ps vs = true) : t'.fits ps vs = true := by
  cases t with
  | exact =>
    cases t' with
    | exact => exact hfits
    | compatible => exact fits_compatible_of_fits_exact hfits
    | arity => exact fits_arity_of_fits_compatible (fits_compatible_of_fits_exact hfits)
  | compatible =>
    cases t' with
    | exact => cases h
    | compatible => exact hfits
    | arity => exact fits_arity_of_fits_compatible hfits
  | arity =>
    cases t' with
    | arity => exact hfits
    | _ => simp [rank] at h

/-! ## Instantiation -/

section

variable {args args' : List DependencyValue} (h : bareArguments args' = bareArguments args)
include h

theorem coerceArguments_of_bare (ps : List ParamType) :
    coerceArguments ps args' = coerceArguments ps args := by
  rw [← coerceArguments_bareArguments ps args', h, coerceArguments_bareArguments]

theorem fits_of_bare {t : Tier} (ht : t ≠ .exact) (ps : List ParamType) :
    t.fits ps args' = t.fits ps args := by
  rw [← Tier.fits_bareArguments ht ps args', h, Tier.fits_bareArguments ht]

/-- Candidates are tried alike. -/
theorem tryCandidates_of_bare (d : Descriptor) (cs : List Candidate) :
    tryCandidates d args' cs = tryCandidates d args cs := by
  have hnotices : ∀ ps, coercionNotices d.id ps args' = coercionNotices d.id ps args := by
    intro ps
    rw [← coercionNotices_bareArguments d.id ps args', h, coercionNotices_bareArguments]
  induction cs with
  | nil => rfl
  | cons c cs ih =>
    funext earlier
    simp only [tryCandidates, Candidate.tryThen, Candidate.invoke, Candidate.invocation,
      coerceArguments_of_bare h, hnotices, ih]

/-- The candidates are the same, if the same constructors fit exactly. -/
theorem candidates_of_bare {f : Factory} (hexact : ∀ c ∈ f.constructors,
      Tier.exact.fits c.params args' = Tier.exact.fits c.params args) :
    f.candidates args' = f.candidates args := by
  have htier : ∀ c ∈ f.constructors, tierOf? c.params args' = tierOf? c.params args := by
    intro c hc
    have hfits : ∀ t : Tier, t.fits c.params args' = t.fits c.params args := by
      intro t
      by_cases ht : t = .exact
      · exact ht ▸ hexact c hc
      · exact fits_of_bare h ht c.params
    simp only [tierOf?, hfits]
  have hfitting : f.fitting args' = f.fitting args := by
    refine List.filterMap_congr fun c hc => ?_
    simp only [Constructor.candidate?, htier c.1 (List.fst_mem_of_mem_zipIdx hc)]
  simp only [Factory.candidates, hfitting]

/-- An instantiation is the same in all that comes of it, if the same constructors fit
exactly. -/
theorem instantiate_of_bare {f : Factory} (hexact : ∀ c ∈ f.constructors,
      Tier.exact.fits c.params args' = Tier.exact.fits c.params args)
    (syntheticFallback : Bool) (d : Descriptor) (earlier : List Invocation) :
    instantiate syntheticFallback f d args' earlier =
      instantiate syntheticFallback f d args earlier := by
  have hlength : args'.length = args.length := by
    rw [← length_bareArguments args', h, length_bareArguments]
  simp only [instantiate, candidates_of_bare h hexact, tryCandidates_of_bare h, Trial.reason,
    hlength]

/-- A constructor that is invoked with the one arguments and with the others receives the
same. -/
theorem invoked_arguments_of_bare {syntheticFallback : Bool} {f : Factory} {d : Descriptor}
    {earlier earlier' : List Invocation} {i j : Invocation}
    (hi : i ∈ (instantiate syntheticFallback f d args earlier).invoked)
    (hj : j ∈ (instantiate syntheticFallback f d args' earlier').invoked)
    (hposition : i.position = j.position) : j.arguments = i.arguments := by
  obtain ⟨c, hc, rfl⟩ := instantiate_invoked_mem hi
  obtain ⟨c', hc', rfl⟩ := instantiate_invoked_mem hj
  have hplace := (mem_candidates hc).1
  have hplace' := (mem_candidates hc').1
  have hposition' : c.position = c'.position := hposition
  rw [← hposition', hplace] at hplace'
  simp only [Candidate.invocation, ← Option.some.inj hplace', coerceArguments_of_bare h]

end

/-- What a parameter accepts exactly it also accepts after a conversion, and envelopes, however
many, neither change what it accepts after a conversion nor what it receives. So what fits in a
tier fits in every worse one, and for arguments that are the same below their envelopes only
the exact tier can differ: where the same constructors fit exactly, the same comes of the
instantiation in every respect, and a constructor that is invoked with both receives the same
from both. -/
theorem envelopes_change_exactness_only :
    (∀ (p : ParamType) (v : DependencyValue),
      (p.acceptsExact v = true → p.acceptsCompatible v = true) ∧
        ∀ n, p.acceptsCompatible (DependencyValue.default^[n] v) = p.acceptsCompatible v ∧
          p.coerce (DependencyValue.default^[n] v) = p.coerce v) ∧
      (∀ (t t' : Tier) (params : List ParamType) (args : List DependencyValue),
        t.rank ≤ t'.rank → t.fits params args = true → t'.fits params args = true) ∧
      ∀ args args' : List DependencyValue, bareArguments args' = bareArguments args →
        (∀ t ≠ Tier.exact, ∀ params, t.fits params args' = t.fits params args) ∧
          ∀ (syntheticFallback : Bool) (f : Factory) (d : Descriptor) (earlier : List Invocation),
            ((∀ c ∈ f.constructors,
                Tier.exact.fits c.params args' = Tier.exact.fits c.params args) →
              instantiate syntheticFallback f d args' earlier =
                instantiate syntheticFallback f d args earlier) ∧
            ∀ i ∈ (instantiate syntheticFallback f d args earlier).invoked,
              ∀ j ∈ (instantiate syntheticFallback f d args' earlier).invoked,
                i.position = j.position → j.arguments = i.arguments := by
  refine ⟨fun p v => ⟨ParamType.acceptsCompatible_of_acceptsExact, fun n => ?_⟩, ?_, ?_⟩
  · rw [← p.acceptsCompatible_unwrapped, ← p.coerce_unwrapped, v.unwrapped_envelopes,
      p.acceptsCompatible_unwrapped, p.coerce_unwrapped]
    exact ⟨rfl, rfl⟩
  · intro t t' params args hrank hfits
    exact Tier.fits_of_rank_le hrank hfits
  · intro args args' h
    refine ⟨fun t ht params => fits_of_bare h ht params, ?_⟩
    intro syntheticFallback f d earlier
    constructor
    · intro hexact
      exact instantiate_of_bare h hexact syntheticFallback d earlier
    · intro i hi j hj hposition
      exact invoked_arguments_of_bare h hi hj hposition

/-- A factory whose two constructors take an integer, the first one of eight bytes and the
second one of four, and never succeed. -/
def Factory.refusing : Factory :=
  ⟨"e", [⟨[.long], fun _ _ => .error ⟨"no", []⟩⟩, ⟨[.int], fun _ _ => .error ⟨"no", []⟩⟩], false⟩

/-- An integer of four bytes fits the second constructor exactly, and is tried with it first. In
an envelope it is tried with the first one first, but the second one receives the same as
before, and one more envelope changes nothing more. -/
theorem envelopes_change_order_of_trial :
    (ParamType.int.acceptsExact (.int 5) = true ∧
        ParamType.int.acceptsCompatible (.int 5) = true) ∧
      (Tier.exact.fits [.int] [.int 5] = true ∧ Tier.arity.fits [.int] [.int 5] = true) ∧
      (instantiate false .refusing (.ofId "a") [.int 5]).invoked =
        [⟨1, [.int 5]⟩, ⟨0, [.long 5]⟩] ∧
      ((instantiate false .refusing (.ofId "a") [.default (.int 5)]).invoked.map (·.position) =
          [0, 1] ∧
        ∀ j ∈ (instantiate false .refusing (.ofId "a") [.default (.int 5)]).invoked,
          j.position = 1 → j.arguments = [.int 5]) ∧
      instantiate false .refusing (.ofId "a") [.default (.default (.int 5))] =
        instantiate false .refusing (.ofId "a") [.default (.int 5)] := by
  obtain ⟨hvalues, htiers, harguments⟩ := envelopes_change_exactness_only
  obtain ⟨-, hplain⟩ := harguments [.int 5] [.default (.int 5)] rfl
  obtain ⟨-, htwice⟩ := harguments [.default (.int 5)] [.default (.default (.int 5))] rfl
  have hfirst : (instantiate false .refusing (.ofId "a") [.int 5]).invoked =
      [⟨1, [.int 5]⟩, ⟨0, [.long 5]⟩] := by decide
  refine ⟨⟨rfl, (hvalues .int (.int 5)).1 rfl⟩, ⟨rfl, htiers .exact .arity _ _ (by decide) rfl⟩,
    hfirst, ⟨by decide, ?_⟩, (htwice false .refusing (.ofId "a") []).1 (by decide)⟩
  intro j hj hposition
  have hsecond : (⟨1, [.int 5]⟩ : Invocation) ∈
      (instantiate false .refusing (.ofId "a") [.int 5]).invoked := by simp [hfirst]
  exact (hplain false .refusing (.ofId "a") []).2 _ hsecond j hj hposition.symm

end ExtensionHost
