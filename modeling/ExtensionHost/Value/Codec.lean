import ExtensionHost.Json.Basic
import ExtensionHost.Value.Basic

/-!
# Values as JSON

A value is an object with one member, whose name tells the kind; only null is
itself. Numbers with a fraction are given by their bits, in hexadecimal digits.
Collaborators are named by the last part of the names of their types; which one of its
type it is is not written, and one that is read is the first.
-/

namespace ExtensionHost

/-! ## Bits -/

/-- A number in so many hexadecimal digits. -/
def hexText (width n : Nat) : String :=
  let digits := Nat.toDigits 16 n
  String.ofList (List.replicate (width - digits.length) '0' ++ digits)

/-- The bits of a number of eight bytes; all that stand for no number are written
alike. -/
def Double.bitText (x : Double) : String :=
  if x.reading.isNaN then "nan" else hexText 16 x.bits.toNat

/-- The bits of a number of four bytes; all that stand for no number are written
alike. -/
def Single.bitText (x : Single) : String :=
  if x.reading.isNaN then "nan" else hexText 8 x.bits.toNat

/-! ## Values -/

/-- What the names of the types of collaborators start with. -/
def objectMark : String := "oracle::"

/-- The short name of the type of a collaborator. -/
def shortTypeName (typeName : String) : String :=
  if objectMark.toList.isPrefixOf typeName.toList then
    String.ofList (typeName.toList.drop objectMark.length)
  else typeName

/-- The value as JSON. -/
def DependencyValue.toJson : DependencyValue → Json
  | .null => .null
  | .bool b => .object [("bool", .bool b)]
  | .int n => .object [("int", .int n.toInt)]
  | .long n => .object [("long", .int n.toInt)]
  | .float x => .object [("float", .text x.bitText)]
  | .double x => .object [("double", .text x.bitText)]
  | .text s => .object [("text", .text s)]
  | .object typeName _ => .object [("object", .text (shortTypeName typeName))]
  | .default inner => .object [("default", inner.toJson)]

/-- The value in JSON. -/
def DependencyValue.ofJson? : Json → Option DependencyValue
  | .null => some .null
  | .object [("bool", .bool b)] => some (.bool b)
  | .object [("int", .int n)] => some (.int (Int32.ofInt n))
  | .object [("long", .int n)] => some (.long (Int64.ofInt n))
  | .object [("float", .text h)] =>
    (parseDigits? 16 h.toList).map fun n => .float ⟨UInt32.ofNat n⟩
  | .object [("double", .text h)] =>
    (parseDigits? 16 h.toList).map fun n => .double ⟨UInt64.ofNat n⟩
  | .object [("text", .text s)] => some (.text s)
  | .object [("object", .text name)] => some (.object (objectMark ++ name))
  | .object [("default", inner)] => (DependencyValue.ofJson? inner).map .default
  | _ => none

/-! ## Parameter types -/

/-- The parameter type in JSON. -/
def ParamType.ofJson? : Json → Option ParamType
  | .text "bool" => some .bool
  | .text "int" => some .int
  | .text "long" => some .long
  | .text "float" => some .float
  | .text "double" => some .double
  | .text "text" => some .text
  | .text "any" => some .any
  | .object [("object", .text name)] => some (.object (objectMark ++ name))
  | .object [("optional", inner)] => (ParamType.ofJson? inner).map .optional
  | _ => none

end ExtensionHost
