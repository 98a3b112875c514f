import ExtensionHost.Decimal.Stepwise
import ExtensionHost.Text.Number

/-!
# JSON values and their compact text

A JSON value, with objects as lists of members in the order they are written,
and the text of a value without any blank between its tokens.
-/

namespace ExtensionHost

/-! ## Values -/

/-- A JSON value. A number written without fraction or exponent is an integer, any
other one is kept as it is written. A string with an unpaired surrogate escape is
well formed but holds no text, and an object with such a name has no members that
could be asked for; only its values are kept. -/
inductive Json where
  | null
  | bool (b : Bool)
  | int (n : Int)
  | decimal (literal : DecimalLiteral)
  | text (s : String)
  | unpairedText
  | array (items : List Json)
  | object (members : List (String × Json))
  | unnamedObject (values : List Json)
  deriving Inhabited

/-- The value of the first member with the name. -/
def Json.field? (name : String) : Json → Option Json
  | .object members => members.lookup name
  | _ => none

/-! ## Text of a string -/

/-- One hexadecimal digit in lower case. -/
def hexDigit (n : Nat) : Char :=
  if n < 10 then Char.ofNat (48 + n) else Char.ofNat (87 + n)

/-- A character inside a JSON string: quote, backslash and controls are escaped. -/
def escapeJsonChar (c : Char) : List Char :=
  if c == '"' then ['\\', '"']
  else if c == '\\' then ['\\', '\\']
  else if c == '\n' then ['\\', 'n']
  else if c == '\r' then ['\\', 'r']
  else if c == '\t' then ['\\', 't']
  else if c.toNat == 8 then ['\\', 'b']
  else if c.toNat == 12 then ['\\', 'f']
  else if c.toNat < 32 then
    ['\\', 'u', '0', '0', hexDigit (c.toNat / 16), hexDigit (c.toNat % 16)]
  else [c]

/-- The text of a string, with its quotes. -/
def jsonString (s : String) : List Char :=
  '"' :: s.toList.flatMap escapeJsonChar ++ ['"']

/-! ## Text of a value -/

mutual

/-- The compact text of a value. -/
def Json.chars : Json → List Char
  | .null => ['n', 'u', 'l', 'l']
  | .bool true => ['t', 'r', 'u', 'e']
  | .bool false => ['f', 'a', 'l', 's', 'e']
  | .int n => intChars n
  | .decimal l =>
    (if l.negative then ['-'] else []) ++ l.whole ++
      (if l.fraction.isEmpty then [] else '.' :: l.fraction) ++ 'e' :: intChars l.exponent
  | .text s => jsonString s
  | .unpairedText => ['"', '"']
  | .array items => '[' :: Json.itemChars items ++ [']']
  | .object members => Char.ofNat 0x7B :: Json.memberChars members ++ [Char.ofNat 0x7D]
  | .unnamedObject _ => [Char.ofNat 0x7B, Char.ofNat 0x7D]

/-- The items of an array, with commas between them. -/
def Json.itemChars : List Json → List Char
  | [] => []
  | [v] => v.chars
  | v :: w :: rest => v.chars ++ ',' :: Json.itemChars (w :: rest)

/-- The members of an object, with commas between them. -/
def Json.memberChars : List (String × Json) → List Char
  | [] => []
  | [(name, v)] => jsonString name ++ ':' :: v.chars
  | (name, v) :: m :: rest =>
    jsonString name ++ ':' :: v.chars ++ ',' :: Json.memberChars (m :: rest)

end

/-- The compact text of a value. -/
def Json.compact (v : Json) : String :=
  String.ofList v.chars

/-! ## Common shapes -/

/-- A list of texts. -/
def Json.texts (items : List String) : Json :=
  .array (items.map .text)

/-- A text, or null where there is none. -/
def Json.optText : Option String → Json
  | some s => .text s
  | none => .null

/-- A natural number. -/
def Json.nat (n : Nat) : Json :=
  .int n

end ExtensionHost
