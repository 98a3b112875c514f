import ExtensionHost.Extension.Builtin

/-!
# Instantiation

An instance is made by one of the constructors of a factory. Those that take as
many arguments as there are stand in the order of how well the arguments fit, and
are tried until one succeeds. When none does, a synthetic extension may stand in.

The order is given in two ways. Either the candidates are put in their order first, or
the constructors are passed over once for each tier, and those that were tried before
are left out.
-/

namespace ExtensionHost

/-! ## Candidates -/

/-- A constructor that is to be tried: its position in the factory, and how well
the arguments fit. -/
structure Candidate where
  position : Nat
  tier : Tier
  constructor : Constructor

/-- The constructor at a position as a candidate, if the arguments fit. -/
def Constructor.candidate? (c : Constructor) (position : Nat) (args : List DependencyValue) :
    Option Candidate :=
  (tierOf? c.params args).map fun tier => ⟨position, tier, c⟩

/-- The constructors that the arguments fit, as they are declared. -/
def Factory.fitting (f : Factory) (args : List DependencyValue) : List Candidate :=
  f.constructors.zipIdx.filterMap fun (c, position) => c.candidate? position args

/-- The constructors in the order they are tried: tier by tier, and as declared
inside a tier. -/
def Factory.candidates (f : Factory) (args : List DependencyValue) : List Candidate :=
  Tier.all.flatMap fun tier => (f.fitting args).filter (·.tier == tier)

/-! ## Arguments -/

/-- What a constructor receives for its parameters. -/
def coerceArguments : List ParamType → List DependencyValue → List DependencyValue
  | p :: ps, v :: vs => p.coerce v :: coerceArguments ps vs
  | _, _ => []

/-- What is noticed when arguments are converted. -/
def coercionNotices (id : String) : List ParamType → List DependencyValue → List Notice
  | p :: ps, v :: vs =>
    (match p.coerce? v with
      | some _ => []
      | none => [.coercionFailed id p v.unwrapped.kind]) ++ coercionNotices id ps vs
  | _, _ => []

/-! ## Trying -/

/-- How an instantiation went. If a constructor has broken down, then with a message,
and no instance was made. -/
structure Instantiation where
  outcome : Except InstantiationError Blueprint
  brokeDown : Option String
  invoked : List Invocation
  notices : List Notice

/-- How far the trying of candidates has come: what settled it, and what those said that
failed before. -/
structure Trial where
  settled : Option (Except String Blueprint)
  failures : List String
  invoked : List Invocation
  notices : List Notice

/-- Nothing has been tried. -/
def Trial.none : Trial :=
  ⟨.none, [], [], []⟩

/-- Invokes a constructor, after others. -/
def Candidate.invoke (c : Candidate) (earlier : List Invocation) (d : Descriptor)
    (args : List DependencyValue) : Construction :=
  (c.constructor.build d (coerceArguments c.constructor.params args)).after earlier

/-- The invocation of a constructor. -/
def Candidate.invocation (c : Candidate) (args : List DependencyValue) : Invocation :=
  ⟨c.position, coerceArguments c.constructor.params args⟩

/-- What is said of a constructor that has failed. -/
def Candidate.failure (c : Candidate) (e : ErrorChain) : String :=
  c.tier.name ++ " " ++ signatureText c.constructor.params ++ ": " ++ e.brief

/-- Tries a candidate, and goes on where it fails. What is next learns that it has been
invoked. -/
def Candidate.tryThen (c : Candidate) (earlier : List Invocation) (d : Descriptor)
    (args : List DependencyValue) (next : List Invocation → Trial) : Trial :=
  let conversion := coercionNotices d.id c.constructor.params args
  match c.invoke earlier d args with
  | .made b => ⟨some (.ok b), [], [c.invocation args], conversion⟩
  | .brokeDown message => ⟨some (.error message), [], [c.invocation args], conversion⟩
  | .failed e =>
    let rest := next (c.invocation args :: earlier)
    { rest with
      failures := c.failure e :: rest.failures
      invoked := c.invocation args :: rest.invoked
      notices := conversion ++
        .constructorFailed d.id c.tier c.constructor.params e :: rest.notices }

/-- Invokes constructors until one does not fail. -/
def tryCandidates (d : Descriptor) (args : List DependencyValue) :
    List Candidate → List Invocation → Trial
  | [], _ => .none
  | c :: cs, earlier => c.tryThen earlier d args (tryCandidates d args cs)

/-- Why no constructor made an instance. -/
def Trial.reason (t : Trial) (f : Factory) (args : List DependencyValue) : String :=
  if t.failures.isEmpty then
    "no constructor of " ++ natText f.constructors.length ++ " accepts " ++
      natText args.length ++ " argument(s)"
  else "; ".intercalate t.failures

/-- Makes an instance from a description and arguments. -/
def instantiate (syntheticFallback : Bool) (f : Factory) (d : Descriptor)
    (args : List DependencyValue) (earlier : List Invocation := []) : Instantiation :=
  let t := tryCandidates d args (f.candidates args) earlier
  match t.settled with
  | some (.ok made) => ⟨.ok made, none, t.invoked, t.notices⟩
  | some (.error message) =>
    ⟨.error (.noUsableConstructor d.id f.entryPoint message), some message, t.invoked, t.notices⟩
  | none =>
    let reason := t.reason f args
    if syntheticFallback then
      ⟨.ok (.synthetic d), none, t.invoked,
        t.notices ++ [.syntheticFallback d.id f.entryPoint reason]⟩
    else
      ⟨.error (.noUsableConstructor d.id f.entryPoint reason), none, t.invoked, t.notices⟩

/-! ## Passes -/

/-- One pass over constructors in a tier. Those at the positions that have been tried are
passed over, as are those that the arguments do not fit in the tier; what is next learns
of all that have been tried. -/
def passTier (d : Descriptor) (args : List DependencyValue) (tier : Tier)
    (next : List Nat → List Invocation → Trial) :
    List (Constructor × Nat) → List Nat → List Invocation → Trial
  | [], tried, earlier => next tried earlier
  | (c, position) :: cs, tried, earlier =>
    if tried.contains position || !tier.fits c.params args then
      passTier d args tier next cs tried earlier
    else
      Candidate.tryThen ⟨position, tier, c⟩ earlier d args
        (passTier d args tier next cs (position :: tried))

/-- One pass over constructors in each tier. -/
def passTiers (d : Descriptor) (args : List DependencyValue) (cs : List (Constructor × Nat)) :
    List Tier → List Nat → List Invocation → Trial
  | [], _, _ => .none
  | tier :: tiers, tried, earlier =>
    passTier d args tier (passTiers d args cs tiers) cs tried earlier

/-! ## Laws -/

/-- Candidates are tried before those that stand behind them. -/
theorem tryCandidates_append (d : Descriptor) (args : List DependencyValue)
    (cs cs' : List Candidate) :
    tryCandidates d args (cs ++ cs') =
      cs.foldr (fun c next earlier => c.tryThen earlier d args next)
        (tryCandidates d args cs') := by
  induction cs with
  | nil => rfl
  | cons c cs ih =>
    rw [List.foldr_cons, ← ih]
    rfl

end ExtensionHost
