import ExtensionHost.Decimal.Shortest
import ExtensionHost.Settings.Basic
import ExtensionHost.Settings.Layer.Basic

/-!
# Free conversion

What a value of a layer gives where a setting needs a value of some kind. Scalars
are converted freely into each other; lists and tables never are.
-/

namespace ExtensionHost

/-! ## Free conversion -/

/-- The greatest natural number of eight bytes. -/
def natMax : Int := 18446744073709551615

/-- The words for true and for false. -/
def truthOfWord? (s : String) : Option Bool :=
  if ["true", "on", "yes"].contains (lowerText s) then some true
  else if ["false", "off", "no"].contains (lowerText s) then some false
  else none

/-- The truth value as a number. -/
def truthNumber (b : Bool) : Int :=
  if b then 1 else 0

/-- The value as a natural number of eight bytes. -/
def Setting.unsigned? : Setting → Option Int
  | .bool b => some (truthNumber b)
  | .int n => if 0 ≤ n then some n else none
  | .decimal x => some (x.reading.roundBetween 0 natMax)
  | .text s =>
    match truthOfWord? s with
    | some b => some (truthNumber b)
    | none => (parseUnsigned? 10 s.toList).filter (· ≤ natMax)
  | _ => none

/-- The value as an integer of eight bytes. -/
def Setting.signed? : Setting → Option Int
  | .bool b => some (truthNumber b)
  | .int n => some n
  | .decimal x => some (x.reading.roundBetween longMin longMax)
  | .text s =>
    match truthOfWord? s with
    | some b => some (truthNumber b)
    | none => parseLong? s.toList
  | _ => none

/-- The value as a truth value. -/
def Setting.truth? : Setting → Option Bool
  | .bool b => some b
  | .int n => some (n != 0)
  | .decimal x => some (!x.reading.isZero)
  | .text s => if s == "1" then some true else if s == "0" then some false else truthOfWord? s
  | _ => none

/-- The value as a text. -/
def Setting.text? : Setting → Option String
  | .bool b => some (boolText b)
  | .int n => some (intText n)
  | .decimal x => some x.decimal
  | .text s => some s
  | _ => none

/-- The value as one of some names, in any case; a table with one entry stands for
its name. -/
def Setting.choice? (names : List String) : Setting → Option String
  | .text s => names.find? (equalIgnoringCase · s)
  | .table [(s, _)] => names.find? (equalIgnoringCase · s)
  | _ => none

/-- A value of a layer answers freely: scalars are converted. -/
instance : Document Setting where
  members?
    | .table entries => some entries
    | _ => none
  positional? limit
    | .list items => some (items.take limit)
    | _ => none
  items?
    | .list items => some items
    | _ => none
  text? := Setting.text?
  optionalText?
    | .null => some none
    | value => value.text?.map some
  signed? := Setting.signed?
  unsigned? := Setting.unsigned?
  bool? := Setting.truth?
  choice? := Setting.choice?

end ExtensionHost
