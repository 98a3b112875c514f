import ExtensionHost.Value.Coercion

/-!
# Tiers

How well a list of arguments fits the parameters of a constructor. The better
tiers imply the worse ones, so the first tier that fits says how well.
-/

namespace ExtensionHost

/-- How well arguments fit parameters, the best first. -/
inductive Tier where
  | exact
  | compatible
  | arity
  deriving DecidableEq, Repr

/-- The name of the tier. -/
def Tier.name : Tier → String
  | .exact => "exact"
  | .compatible => "compatible"
  | .arity => "arity"

/-- The tiers in the order they are tried. -/
def Tier.all : List Tier :=
  [.exact, .compatible, .arity]

/-- Whether each argument is accepted by the parameter at its position. -/
def acceptsEach (accepts : ParamType → DependencyValue → Bool) :
    List ParamType → List DependencyValue → Bool
  | [], [] => true
  | p :: ps, v :: vs => accepts p v && acceptsEach accepts ps vs
  | _, _ => false

/-- Whether the arguments fit the parameters in the tier. In every tier there has
to be one argument for each parameter. -/
def Tier.fits : Tier → List ParamType → List DependencyValue → Bool
  | .exact => acceptsEach ParamType.acceptsExact
  | .compatible => acceptsEach ParamType.acceptsCompatible
  | .arity => acceptsEach fun _ _ => true

/-- The first tier that the arguments fit in. -/
def tierOf? (params : List ParamType) (args : List DependencyValue) : Option Tier :=
  Tier.all.find? (·.fits params args)

/-! ## Laws -/

theorem acceptsEach_mono {accepts accepts' : ParamType → DependencyValue → Bool}
    (h : ∀ p v, accepts p v = true → accepts' p v = true) {ps : List ParamType}
    {vs : List DependencyValue} (hs : acceptsEach accepts ps vs = true) :
    acceptsEach accepts' ps vs = true := by
  induction ps generalizing vs with
  | nil => cases vs <;> simp_all [acceptsEach]
  | cons p ps ih =>
    cases vs with
    | nil => simp [acceptsEach] at hs
    | cons v vs =>
      simp only [acceptsEach, Bool.and_eq_true] at hs ⊢
      exact ⟨h p v hs.1, ih hs.2⟩

/-- Arguments that fit exactly also fit after a conversion. -/
theorem fits_compatible_of_fits_exact {ps : List ParamType} {vs : List DependencyValue}
    (h : Tier.exact.fits ps vs = true) : Tier.compatible.fits ps vs = true :=
  acceptsEach_mono (fun _ _ => ParamType.acceptsCompatible_of_acceptsExact) h

/-- Arguments that fit after a conversion are as many as the parameters. -/
theorem fits_arity_of_fits_compatible {ps : List ParamType} {vs : List DependencyValue}
    (h : Tier.compatible.fits ps vs = true) : Tier.arity.fits ps vs = true :=
  acceptsEach_mono (fun _ _ _ => rfl) h

@[simp] theorem fits_arity {params : List ParamType} {args : List DependencyValue} :
    Tier.arity.fits params args = true ↔ params.length = args.length := by
  induction params generalizing args with
  | nil => cases args <;> simp [Tier.fits, acceptsEach]
  | cons p ps ih =>
    cases args with
    | nil => simp [Tier.fits, acceptsEach]
    | cons v vs => simpa [Tier.fits, acceptsEach] using ih

end ExtensionHost
