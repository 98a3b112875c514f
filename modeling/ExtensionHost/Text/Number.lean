/-!
# Decimal text of integers
-/

namespace ExtensionHost

/-- The decimal digits of a number, without leading zeros. -/
def natText (n : Nat) : String :=
  String.ofList (Nat.toDigits 10 n)

/-- The decimal digits of an integer after its sign; only a minus is written. -/
def intChars (n : Int) : List Char :=
  if n < 0 then '-' :: Nat.toDigits 10 n.natAbs else Nat.toDigits 10 n.natAbs

/-- The decimal text of an integer. -/
def intText (n : Int) : String :=
  String.ofList (intChars n)

/-- The value of a digit of the base, where a digit above nine is a letter. -/
def digitIn? (base : Nat) (c : Char) : Option Nat :=
  let n := c.toNat
  let v := if 48 ≤ n && n ≤ 57 then n - 48
    else if 97 ≤ n && n ≤ 122 then n - 87
    else if 65 ≤ n && n ≤ 90 then n - 55
    else 99
  if v < base then some v else none

/-- A decimal digit. -/
def isDigit (c : Char) : Bool :=
  (digitIn? 10 c).isSome

/-- The number that a list of digits of the base writes. -/
def numberOfDigits (base : Nat) (cs : List Char) : Nat :=
  cs.foldl (fun n c => n * base + (digitIn? base c).getD 0) 0

/-- The number of a text that holds at least one digit of the base and nothing else. -/
def parseDigits? (base : Nat) (cs : List Char) : Option Nat :=
  if !cs.isEmpty && cs.all (fun c => (digitIn? base c).isSome) then some (numberOfDigits base cs)
  else none

/-- An integer with an optional sign. -/
def parseSigned? (base : Nat) : List Char → Option Int
  | '-' :: cs => (parseDigits? base cs).map fun n => -(n : Int)
  | '+' :: cs => (parseDigits? base cs).map fun n => (n : Int)
  | cs => (parseDigits? base cs).map fun n => (n : Int)

/-- An integer without a minus sign. -/
def parseUnsigned? (base : Nat) : List Char → Option Int
  | '+' :: cs => (parseDigits? base cs).map fun n => (n : Int)
  | cs => (parseDigits? base cs).map fun n => (n : Int)

end ExtensionHost
