import ExtensionHost.Decimal.Shortest
import ExtensionHost.Text.Number
import ExtensionHost.Text.Quoted

/-!
# Dependency values and parameter types

The values that constructors are given, and the types they declare for their
parameters. A value may lie in an envelope that marks it as a default; envelopes
may lie in envelopes.
-/

namespace ExtensionHost

/-! ## Values -/

/-- A value for a constructor. Collaborators of one type, which has a name, are told
apart by numbers. -/
inductive DependencyValue where
  | null
  | bool (b : Bool)
  | int (n : Int32)
  | long (n : Int64)
  | float (x : Single)
  | double (x : Double)
  | text (s : String)
  | object (typeName : String) (number : Nat := 0)
  | default (inner : DependencyValue)
  deriving DecidableEq, Inhabited, Repr

/-- The value without its envelopes. -/
def DependencyValue.unwrapped : DependencyValue → DependencyValue
  | .default inner => inner.unwrapped
  | v => v

/-- Whether there is no value. An envelope is one, whatever it holds. -/
def DependencyValue.isNull : DependencyValue → Bool
  | .null => true
  | _ => false

/-- Whether the value is a number. -/
def DependencyValue.isNumeric : DependencyValue → Bool
  | .int _ | .long _ | .float _ | .double _ => true
  | _ => false

/-- The number as one of eight bytes, to the nearest. -/
def DependencyValue.asDouble? : DependencyValue → Option Double
  | .int n => some (.ofInt n.toInt)
  | .long n => some (.ofInt n.toInt)
  | .float x => some (.ofReading x.reading)
  | .double x => some x
  | _ => none

/-- The least integer of eight bytes. -/
def longMin : Int := -9223372036854775808

/-- The greatest integer of eight bytes. -/
def longMax : Int := 9223372036854775807

/-- The number without its fraction. What is too large for an integer of eight
bytes becomes the nearest one, and no number becomes zero. -/
def DependencyValue.asInteger? : DependencyValue → Option Int
  | .int n => some n.toInt
  | .long n => some n.toInt
  | .float x => some (x.reading.truncateBetween longMin longMax)
  | .double x => some (x.reading.truncateBetween longMin longMax)
  | _ => none

/-- The truth value. -/
def DependencyValue.asBool? : DependencyValue → Option Bool
  | .bool b => some b
  | _ => none

/-- The text. -/
def DependencyValue.asText? : DependencyValue → Option String
  | .text s => some s
  | _ => none

/-- The name of the kind of value. -/
def DependencyValue.kind : DependencyValue → String
  | .null => "null"
  | .bool _ => "bool"
  | .int _ => "int"
  | .long _ => "long"
  | .float _ => "float"
  | .double _ => "double"
  | .text _ => "text"
  | .object typeName _ => typeName
  | .default _ => "default"

/-- The word for a truth value. -/
def boolText (b : Bool) : String :=
  if b then "true" else "false"

/-- The value with the name of its case. -/
def DependencyValue.debug : DependencyValue → String
  | .null => "Null"
  | .bool b => "Bool(" ++ boolText b ++ ")"
  | .int n => "Int(" ++ intText n.toInt ++ ")"
  | .long n => "Long(" ++ intText n.toInt ++ ")"
  | .float x => "Float(" ++ x.decimal ++ ")"
  | .double x => "Double(" ++ x.decimal ++ ")"
  | .text s => "Text(" ++ quoted s ++ ")"
  | .object typeName _ => "Object(" ++ typeName ++ ")"
  | .default inner => "Default(" ++ inner.debug ++ ")"

/-- The value as a text of its own. -/
def DependencyValue.stringify : DependencyValue → String
  | .null => ""
  | .bool b => boolText b
  | .int n => intText n.toInt
  | .long n => intText n.toInt
  | .float x => x.decimal
  | .double x => x.decimal
  | .text s => s
  | .object typeName _ => typeName
  | .default inner => inner.stringify

/-! ## Parameter types -/

/-- The type that a constructor declares for a parameter. -/
inductive ParamType where
  | bool
  | int
  | long
  | float
  | double
  | text
  | object (typeName : String)
  | any
  | optional (inner : ParamType)
  deriving DecidableEq, Inhabited, Repr

/-- Whether the type is one of numbers. An optional one is not. -/
def ParamType.isNumeric : ParamType → Bool
  | .int | .long | .float | .double => true
  | _ => false

/-- The type that is not optional below it. -/
def ParamType.base : ParamType → ParamType
  | .optional inner => inner.base
  | p => p

/-- The name of the type; an optional one ends in a question mark. -/
def ParamType.display : ParamType → String
  | .bool => "bool"
  | .int => "int"
  | .long => "long"
  | .float => "float"
  | .double => "double"
  | .text => "text"
  | .object typeName => typeName
  | .any => "any"
  | .optional inner => inner.display ++ "?"

/-- The names of a list of types, as a signature. -/
def signatureText (params : List ParamType) : String :=
  "(" ++ ", ".intercalate (params.map ParamType.display) ++ ")"

/-! ## Laws -/

@[simp] theorem DependencyValue.unwrapped_unwrapped (v : DependencyValue) :
    v.unwrapped.unwrapped = v.unwrapped := by
  induction v with
  | default inner ih => simpa [unwrapped] using ih
  | _ => rfl

@[simp] theorem ParamType.base_base (p : ParamType) : p.base.base = p.base := by
  induction p with
  | optional inner ih => simpa [base] using ih
  | _ => rfl

end ExtensionHost
