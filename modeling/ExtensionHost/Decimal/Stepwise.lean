import ExtensionHost.Decimal.Literal

/-!
# Decimal literals, step by step

The number of eight bytes that a literal stands for when it is found with few
operations on such numbers. As many of its digits are kept as fit into eight bytes,
the integer that they make is rounded to a number, and this number is multiplied or
divided by a power of ten. Every step rounds, so the result need not be the nearest
one, and a literal near the greatest number may come out infinite.
-/

namespace ExtensionHost

/-! ## Literals -/

/-- A literal by its parts: the digits in front of the point and behind it, and the
exponent, zero where none is written. -/
structure DecimalLiteral where
  negative : Bool
  whole : List Char
  fraction : List Char
  exponent : Int

/-- An integer as a literal. -/
def DecimalLiteral.ofInt (n : Int) : DecimalLiteral :=
  ⟨n < 0, Nat.toDigits 10 n.natAbs, [], 0⟩

/-! ## Kept digits -/

/-- The greatest natural number of eight bytes. -/
def keptMax : Nat := 18446744073709551615

/-- A number with digits added behind it for as long as it fits into eight bytes, and
the digits that are left. -/
def keepDigits (kept : Nat) : List Char → Nat × List Char
  | [] => (kept, [])
  | c :: cs =>
    let next := 10 * kept + (digitIn? 10 c).getD 0
    if next ≤ keptMax then keepDigits next cs else (kept, c :: cs)

/-- What is kept fits into eight bytes. -/
theorem keepDigits_le {kept : Nat} {cs : List Char} (h : kept ≤ keptMax) :
    (keepDigits kept cs).1 ≤ keptMax := by
  induction cs generalizing kept with
  | nil => exact h
  | cons c cs ih => simp only [keepDigits]; split <;> simp_all

/-- The integer of the digits that are kept, and the power of ten that it is to be
multiplied by. The digits in front of the point that are not kept count for their
places, those behind it not at all. -/
def DecimalLiteral.kept (l : DecimalLiteral) : Nat × Int :=
  let (kept, places) := keepDigits 0 l.whole
  let (kept, ignored) := keepDigits kept l.fraction
  (kept, l.exponent + places.length + ignored.length - l.fraction.length)

/-! ## Powers of ten -/

/-- The exponent of the greatest power of ten below infinity. -/
def greatestPower : Nat := 308

/-- The number nearest to a power of ten. -/
def powerOfTen (exponent : Nat) : Double :=
  .ofDecimal false 1 exponent

/-- The finite number times a power of ten, rounded once; for a negative exponent it
is divided by the power. -/
def Reading.timesPower (r : Reading) (exponent : Int) : Reading :=
  match r, (powerOfTen exponent.natAbs).reading with
  | .finite negative m p, .finite _ n q =>
    let format := BinaryFormat.double
    format.read <|
      if 0 ≤ exponent then format.ofDyadic negative (m * n) (p + q)
      else if p < q then format.ofRatio negative m (n <<< (q - p).toNat)
      else format.ofRatio negative (m <<< (p - q).toNat) n
  | r, _ => r

/-- The finite number times any power of ten. A power that is no number itself is
taken in several divisions; after two of them nothing is left. -/
def Reading.scaleTen : Nat → Reading → Int → Reading
  | 0, r, _ => r
  | divisions + 1, r, exponent =>
    if exponent.natAbs ≤ greatestPower then r.timesPower exponent
    else if r.isZero then r
    else if 0 < exponent then .infinite false
    else Reading.scaleTen divisions (r.timesPower (-greatestPower)) (exponent + greatestPower)

/-- The number that the steps lead to, unless it is infinite. -/
def DecimalLiteral.stepwise? (l : DecimalLiteral) : Option Double :=
  let (kept, exponent) := l.kept
  match Reading.scaleTen 3 (Double.ofInt kept).reading exponent with
  | .finite _ m p => some (.ofReading (.finite l.negative m p))
  | _ => none

end ExtensionHost
