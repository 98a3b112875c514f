import ExtensionHost.Value.Basic

/-!
# Fitting values to parameters

When a parameter accepts a value as it is, when it accepts one after a
conversion, and what it receives. A value that cannot be converted is replaced
by null.
-/

namespace ExtensionHost

/-! ## Acceptance -/

/-- Whether the value has exactly the declared type. Null fits every optional
parameter; an envelope fits none, and a parameter of any type fits nothing. -/
def ParamType.acceptsExact : ParamType → DependencyValue → Bool
  | .optional _, .null => true
  | .optional inner, v => inner.acceptsExact v
  | .bool, .bool _ => true
  | .int, .int _ => true
  | .long, .long _ => true
  | .float, .float _ => true
  | .double, .double _ => true
  | .text, .text _ => true
  | .object p, .object v _ => p == v
  | _, _ => false

/-- Whether a value without envelopes fits after a conversion: numbers stand for
numbers, and a parameter of any type takes everything. -/
def ParamType.acceptsPlain : ParamType → DependencyValue → Bool
  | .any, _ => true
  | .optional _, .null => true
  | .optional inner, v => inner.acceptsPlain v
  | p, v => (p.isNumeric && v.isNumeric) || p.acceptsExact v

/-- Whether the value fits after a conversion. Envelopes do not count. -/
def ParamType.acceptsCompatible (p : ParamType) (v : DependencyValue) : Bool :=
  p.acceptsPlain v.unwrapped

/-- No type is that of an envelope. -/
theorem ParamType.not_acceptsExact_default (p : ParamType) (v : DependencyValue) :
    p.acceptsExact (.default v) = false := by
  induction p with
  | optional inner ih => simpa [acceptsExact] using ih
  | _ => rfl

theorem DependencyValue.unwrapped_of_acceptsExact {p : ParamType} {v : DependencyValue}
    (h : p.acceptsExact v = true) : v.unwrapped = v := by
  cases v with
  | default inner => simp [ParamType.not_acceptsExact_default] at h
  | _ => rfl

theorem ParamType.acceptsPlain_of_acceptsExact {p : ParamType} {v : DependencyValue}
    (h : p.acceptsExact v = true) : p.acceptsPlain v = true := by
  induction p with
  | optional inner ih => cases v <;> first | rfl | exact ih h
  | any => rfl
  | _ => simp [acceptsPlain, h]

/-- What fits exactly also fits after a conversion. -/
theorem ParamType.acceptsCompatible_of_acceptsExact {p : ParamType} {v : DependencyValue}
    (h : p.acceptsExact v = true) : p.acceptsCompatible v = true := by
  rw [acceptsCompatible, DependencyValue.unwrapped_of_acceptsExact h]
  exact acceptsPlain_of_acceptsExact h

/-! ## Conversion -/

/-- The integer as one of four bytes, if it fits. -/
def int32? (n : Int) : Option Int32 :=
  if -2147483648 ≤ n ∧ n ≤ 2147483647 then some (Int32.ofInt n) else none

/-- A value without envelopes that is not null, as one of a type that is not
optional. -/
def ParamType.convert? : ParamType → DependencyValue → Option DependencyValue
  | .any, v => some v
  | .bool, v => v.asBool?.map .bool
  | .int, v => (v.asInteger?.bind int32?).map .int
  | .long, v => v.asInteger?.map fun n => .long (Int64.ofInt n)
  | .float, v => v.asDouble?.map fun x => .float (.ofReading x.reading)
  | .double, v => v.asDouble?.map .double
  | .text, v => some (.text v.stringify)
  | .object p, .object v number => if p == v then some (.object v number) else none
  | .object _, _ => none
  | .optional _, _ => none

/-- The value for a parameter, or nothing where it cannot be converted. -/
def ParamType.coerce? (p : ParamType) (v : DependencyValue) : Option DependencyValue :=
  if v.unwrapped.isNull then some .null else p.base.convert? v.unwrapped

/-- What a parameter receives. -/
def ParamType.coerce (p : ParamType) (v : DependencyValue) : DependencyValue :=
  (p.coerce? v).getD .null

/-! ## Laws -/

/-- Envelopes do not change what a parameter receives. -/
@[simp] theorem ParamType.coerce_default (p : ParamType) (v : DependencyValue) :
    p.coerce (.default v) = p.coerce v := rfl

@[simp] theorem ParamType.acceptsCompatible_default (p : ParamType) (v : DependencyValue) :
    p.acceptsCompatible (.default v) = p.acceptsCompatible v := rfl

end ExtensionHost
