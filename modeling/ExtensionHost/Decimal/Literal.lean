import ExtensionHost.Decimal.Binary
import ExtensionHost.Text.Number

/-!
# Decimal literals

The number of eight bytes that a decimal literal stands for: an optional sign,
digits with an optional point among them, and an optional exponent. The value is
the nearest one, so no literal is refused for its size.
-/

namespace ExtensionHost

/-! ## Values -/

/-- The bound on the place of the leading digit, beyond which every number of
eight bytes is infinite or zero. -/
def literalBound : Int := 400

/-- The number nearest to `± digits * 10 ^ exponent`. -/
def Double.ofDecimal (negative : Bool) (digits : Nat) (exponent : Int) : Double :=
  let leading : Int := exponent + (Nat.toDigits 10 digits).length
  let format := BinaryFormat.double
  let bits :=
    if digits == 0 || leading < -literalBound then format.signBit negative
    else if literalBound < leading then format.infinity negative
    else if exponent < 0 then format.ofRatio negative digits (Nat.pow 10 exponent.natAbs)
    else format.ofRatio negative (digits * Nat.pow 10 exponent.natAbs) 1
  ⟨.ofNat bits⟩

/-! ## Literals -/

/-- The digits in front of the point and behind it, at least one of all, and the
rest of the text. -/
def readDigits (cs : List Char) : Option (List Char × List Char × List Char) :=
  let whole := cs.takeWhile isDigit
  let (fraction, rest) := match cs.dropWhile isDigit with
    | '.' :: rest => (rest.takeWhile isDigit, rest.dropWhile isDigit)
    | rest => ([], rest)
  if whole.isEmpty && fraction.isEmpty then none else some (whole, fraction, rest)

/-- The exponent at the end of a literal. -/
def parseExponent? : List Char → Option Int
  | [] => some 0
  | c :: cs => if c == 'e' || c == 'E' then parseSigned? 10 cs else none

/-- A literal without its sign. -/
def parseMagnitudeLiteral? (negative : Bool) (cs : List Char) : Option Double :=
  let word := String.ofList (cs.map Char.toLower)
  if word == "inf" || word == "infinity" then
    some ⟨.ofNat (BinaryFormat.double.infinity negative)⟩
  else if word == "nan" then some ⟨.ofNat BinaryFormat.double.noNumber⟩
  else do
    let (whole, fraction, rest) ← readDigits cs
    let exponent ← parseExponent? rest
    return .ofDecimal negative (numberOfDigits 10 (whole ++ fraction)) (exponent - fraction.length)

/-- The number that a literal stands for. The words for infinity and for no
number are literals as well. -/
def Double.parse? : List Char → Option Double
  | '-' :: cs => parseMagnitudeLiteral? true cs
  | '+' :: cs => parseMagnitudeLiteral? false cs
  | cs => parseMagnitudeLiteral? false cs

/-- Whether the number is infinite. -/
def Double.isInfinite (x : Double) : Bool :=
  match x.reading with
  | .infinite _ => true
  | _ => false

end ExtensionHost
