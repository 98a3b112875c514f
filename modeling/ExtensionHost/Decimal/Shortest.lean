import ExtensionHost.Decimal.Binary

/-!
# Shortest decimal text

The decimal text of a binary number has the fewest digits that read back as the
same number, and of those the nearest to it; of two equally near, those farther
from zero. It is always written positionally: `1e21` is a one with twenty-one
zeros, and a whole number has no point.

The digits are found in exact arithmetic. The reals that round to a number form
an interval; for one digit, two digits, and so on, the two neighbours of the
number on that decimal grid are tested, and the first grid with a neighbour in
the interval gives the digits.
-/

namespace ExtensionHost

/-! ## Digits -/

/-- A positive number between its two rounding bounds, all three as multiples of
`2 ^ place`. The bounds belong to the interval when `closed` holds. -/
structure RoundingInterval where
  low : Nat
  mid : Nat
  high : Nat
  place : Int
  closed : Bool

/-- The interval of a finite number. Below a power of two the representable
numbers lie twice as dense, unless that is the lowest place already. -/
def BinaryFormat.interval (format : BinaryFormat) (significand : Nat) (place : Int) :
    RoundingInterval :=
  let atPower := significand == (1 <<< format.fraction) && format.lowestPlace < place
  { low := 4 * significand - (if atPower then 1 else 2)
    mid := 4 * significand
    high := 4 * significand + 2
    place := place - 2
    closed := significand % 2 == 0 }

/-- The two sides of a comparison of `a * 2 ^ p` with `c * 10 ^ e`, brought to
natural numbers. -/
def crossScale (a : Nat) (p : Int) (c : Nat) (e : Int) : Nat × Nat :=
  let left := (a <<< p.toNat) * Nat.pow 10 (-e).toNat
  let right := (c <<< (-p).toNat) * Nat.pow 10 e.toNat
  (left, right)

/-- Whether `c * 10 ^ e` rounds to the number of the interval. -/
def RoundingInterval.holds (i : RoundingInterval) (c : Nat) (e : Int) : Bool :=
  let (low, a) := crossScale i.low i.place c e
  let (high, b) := crossScale i.high i.place c e
  if i.closed then low ≤ a && b ≤ high else low < a && b < high

/-- The number in units of `10 ^ e`, rounded down. -/
def RoundingInterval.unitsBelow (i : RoundingInterval) (e : Int) : Nat :=
  let (num, den) := crossScale i.mid i.place 1 e
  num / den

/-- Whether the lower of two neighbouring multiples of `10 ^ e` is nearer than the
other one. -/
def RoundingInterval.nearerBelow (i : RoundingInterval) (c : Nat) (e : Int) : Bool :=
  let (num, den) := crossScale i.mid i.place 1 e
  2 * num < (2 * c + 1) * den

/-- The neighbour on the grid of `10 ^ e` that rounds to the number, if any. -/
def RoundingInterval.onGrid (i : RoundingInterval) (e : Int) : Option Nat :=
  let c := i.unitsBelow e
  match i.holds c e, i.holds (c + 1) e with
  | true, true => some (if i.nearerBelow c e then c else c + 1)
  | true, false => some c
  | false, true => some (c + 1)
  | false, false => none

/-- The exponent of the first digit, as the largest `e` from `start` downwards
with `10 ^ e` not above the number. -/
def RoundingInterval.leadingExponent (i : RoundingInterval) : Nat → Int → Int
  | 0, start => start
  | fuel + 1, start =>
    if i.unitsBelow start == 0 then i.leadingExponent fuel (start - 1) else start

/-- Digits and exponent from the first grid that has them, from `e` downwards. -/
def RoundingInterval.firstGrid (i : RoundingInterval) : Nat → Int → Nat × Int
  | 0, e => (i.unitsBelow e, e)
  | fuel + 1, e =>
    match i.onGrid e with
    | some c => (c, e)
    | none => i.firstGrid fuel (e - 1)

/-- The shortest digits of a positive number, as `digits * 10 ^ exponent`. Twenty
grids are more than any format here needs. -/
def RoundingInterval.shortest (i : RoundingInterval) : Nat × Int :=
  let bits : Int := (Nat.log2 i.mid : Int) + i.place
  let start := if bits < 0 then -((-bits * 30103) / 100000) + 1 else bits * 30103 / 100000 + 1
  i.firstGrid 20 (i.leadingExponent 3 start)

/-! ## Positional text -/

/-- The number without trailing zeros, which move into the exponent. -/
def dropTrailingZeros : Nat → Nat → Int → Nat × Int
  | 0, digits, e => (digits, e)
  | fuel + 1, digits, e =>
    if digits != 0 && digits % 10 == 0 then dropTrailingZeros fuel (digits / 10) (e + 1)
    else (digits, e)

/-- The text of `digits * 10 ^ e` without an exponent. -/
def positional (digits : Nat) (e : Int) : List Char :=
  let (digits, e) := dropTrailingZeros 400 digits e
  let ds := Nat.toDigits 10 digits
  if 0 ≤ e then ds ++ List.replicate e.toNat '0'
  else
    let places := (-e).toNat
    if places < ds.length then
      ds.take (ds.length - places) ++ '.' :: ds.drop (ds.length - places)
    else '0' :: '.' :: List.replicate (places - ds.length) '0' ++ ds

/-- The decimal text of a reading of the format. -/
def BinaryFormat.decimal (format : BinaryFormat) : Reading → String
  | .notANumber => "NaN"
  | .infinite negative => if negative then "-inf" else "inf"
  | .finite negative significand place =>
    let magnitude :=
      if significand == 0 then ['0']
      else
        let (digits, e) := (format.interval significand place).shortest
        positional digits e
    String.ofList (if negative then '-' :: magnitude else magnitude)

/-- The shortest decimal text of the number. -/
def Single.decimal (x : Single) : String :=
  BinaryFormat.single.decimal x.reading

/-- The shortest decimal text of the number. -/
def Double.decimal (x : Double) : String :=
  BinaryFormat.double.decimal x.reading

end ExtensionHost
