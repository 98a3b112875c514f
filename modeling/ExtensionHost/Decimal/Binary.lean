/-!
# Binary floating point, exactly

A number of a binary format is its bit pattern; its meaning is a sign and a
value m · 2 ^ q over the natural numbers, an infinity, or no number at all.
Every conversion goes through that meaning, so that it is exact arithmetic
followed by at most one rounding: to the nearest representable number, and of
two equally near to the one with an even significand. A number is multiplied by a
power of two, or divided by one, with a shift.
-/

namespace ExtensionHost

/-! ## Formats and readings -/

/-- The layout of a binary format: the bits stored of the significand and the
bits of the exponent. -/
structure BinaryFormat where
  fraction : Nat
  exponent : Nat

/-- Four bytes. -/
def BinaryFormat.single : BinaryFormat := ⟨23, 8⟩

/-- Eight bytes. -/
def BinaryFormat.double : BinaryFormat := ⟨52, 11⟩

/-- The exponent field of infinities and of patterns that are no number. -/
def BinaryFormat.topField (format : BinaryFormat) : Nat :=
  (1 <<< format.exponent) - 1

/-- The power of two of the last place of the smallest numbers. -/
def BinaryFormat.lowestPlace (format : BinaryFormat) : Int :=
  2 - (1 <<< (format.exponent - 1) : Nat) - format.fraction

/-- What a bit pattern stands for. A finite number has the magnitude
`significand * 2 ^ place`. -/
inductive Reading where
  | notANumber
  | infinite (negative : Bool)
  | finite (negative : Bool) (significand : Nat) (place : Int)
  deriving DecidableEq, Repr

/-- The meaning of a bit pattern. -/
def BinaryFormat.read (format : BinaryFormat) (bits : Nat) : Reading :=
  let fraction := bits % (1 <<< format.fraction)
  let field := (bits >>> format.fraction) % (1 <<< format.exponent)
  let negative := (bits >>> (format.fraction + format.exponent)) % 2 == 1
  if field == format.topField then
    if fraction == 0 then .infinite negative else .notANumber
  else if field == 0 then
    .finite negative fraction format.lowestPlace
  else
    .finite negative ((1 <<< format.fraction) + fraction) (format.lowestPlace + (field - 1 : Nat))

/-! ## Rounding -/

/-- The quotient rounded to the nearest integer, a half to the even neighbour. -/
def roundHalfEven (num den : Nat) : Nat :=
  let low := num / den
  let rest := num % den
  if 2 * rest < den then low
  else if den < 2 * rest then low + 1
  else if low % 2 == 0 then low else low + 1

/-- The quotient rounded to the nearest integer, a half upwards. -/
def roundHalfUp (num den : Nat) : Nat :=
  (2 * num + den) / (2 * den)

/-- The bit pattern without its sign. -/
def BinaryFormat.signBit (format : BinaryFormat) (negative : Bool) : Nat :=
  if negative then 1 <<< (format.fraction + format.exponent) else 0

/-- The pattern of an infinity. -/
def BinaryFormat.infinity (format : BinaryFormat) (negative : Bool) : Nat :=
  format.signBit negative + (format.topField <<< format.fraction)

/-- The pattern that stands for no number. -/
def BinaryFormat.noNumber (format : BinaryFormat) : Nat :=
  (format.topField <<< format.fraction) + (1 <<< (format.fraction - 1))

/-- The pattern nearest to `num / den`. The place of the last significand bit is
chosen so that the significand has its full width, unless that place would be
below the lowest one of the format; a carry out of the significand moves on into
the exponent field by itself. -/
def BinaryFormat.ofRatio (format : BinaryFormat) (negative : Bool) (num den : Nat) : Nat :=
  if num == 0 then format.signBit negative
  else
    let full : Int := (Nat.log2 num : Int) - (Nat.log2 den : Int) - format.fraction
    let scaled (place : Int) : Nat × Nat :=
      if place < 0 then (num <<< place.natAbs, den) else (num, den <<< place.natAbs)
    let full :=
      if (scaled full).1 / (scaled full).2 < (1 <<< format.fraction) then full - 1 else full
    let place := max full format.lowestPlace
    let significand := roundHalfEven (scaled place).1 (scaled place).2
    let steps := (place - format.lowestPlace).toNat
    let magnitude := (steps <<< format.fraction) + significand
    if (format.topField <<< format.fraction) ≤ magnitude then format.infinity negative
    else format.signBit negative + magnitude

/-- The pattern nearest to a dyadic number. -/
def BinaryFormat.ofDyadic (format : BinaryFormat) (negative : Bool) (significand : Nat)
    (place : Int) : Nat :=
  if place < 0 then format.ofRatio negative significand (1 <<< place.natAbs)
  else format.ofRatio negative (significand <<< place.natAbs) 1

/-- The pattern nearest to a reading of any format. -/
def BinaryFormat.ofReading (format : BinaryFormat) : Reading → Nat
  | .notANumber => format.noNumber
  | .infinite negative => format.infinity negative
  | .finite negative significand place => format.ofDyadic negative significand place

/-- The pattern nearest to an integer. -/
def BinaryFormat.ofInt (format : BinaryFormat) (n : Int) : Nat :=
  format.ofRatio (n < 0) n.natAbs 1

/-! ## Integers near a number -/

/-- The magnitude without its fraction. -/
def truncateMagnitude (significand : Nat) (place : Int) : Nat :=
  if place < 0 then significand >>> place.natAbs else significand <<< place.natAbs

/-- The magnitude rounded to an integer, a half away from zero. -/
def roundMagnitude (significand : Nat) (place : Int) : Nat :=
  if place < 0 then roundHalfUp significand (1 <<< place.natAbs)
  else significand <<< place.natAbs

/-- An integer with the given sign and magnitude. -/
def signedInt (negative : Bool) (magnitude : Nat) : Int :=
  if negative then -(magnitude : Int) else magnitude

/-- The nearest integer between two bounds. -/
def clampInt (low high n : Int) : Int :=
  max low (min high n)

/-- The integer part, kept between two bounds; no number counts as zero. -/
def Reading.truncateBetween (low high : Int) : Reading → Int
  | .notANumber => 0
  | .infinite negative => if negative then low else high
  | .finite negative significand place =>
    clampInt low high (signedInt negative (truncateMagnitude significand place))

/-- The nearest integer, a half away from zero, kept between two bounds; no
number counts as zero. -/
def Reading.roundBetween (low high : Int) : Reading → Int
  | .notANumber => 0
  | .infinite negative => if negative then low else high
  | .finite negative significand place =>
    clampInt low high (signedInt negative (roundMagnitude significand place))

/-! ## The two formats -/

/-- A number of four bytes. -/
structure Single where
  bits : UInt32
  deriving DecidableEq, Repr

/-- A number of eight bytes. -/
structure Double where
  bits : UInt64
  deriving DecidableEq, Repr

/-- What the number stands for. -/
def Single.reading (x : Single) : Reading :=
  BinaryFormat.single.read x.bits.toNat

/-- What the number stands for. -/
def Double.reading (x : Double) : Reading :=
  BinaryFormat.double.read x.bits.toNat

/-- The nearest number of four bytes. -/
def Single.ofReading (r : Reading) : Single :=
  ⟨.ofNat (BinaryFormat.single.ofReading r)⟩

/-- The nearest number of eight bytes. -/
def Double.ofReading (r : Reading) : Double :=
  ⟨.ofNat (BinaryFormat.double.ofReading r)⟩

/-- The number of eight bytes nearest to an integer. -/
def Double.ofInt (n : Int) : Double :=
  ⟨.ofNat (BinaryFormat.double.ofInt n)⟩

/-- Whether a number is zero. -/
def Reading.isZero : Reading → Bool
  | .finite _ significand _ => significand == 0
  | _ => false

/-- No number. -/
def Reading.isNaN : Reading → Bool
  | .notANumber => true
  | _ => false

end ExtensionHost
