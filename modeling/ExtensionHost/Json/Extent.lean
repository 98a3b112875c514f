import ExtensionHost.Json.Basic

/-!
# What a JSON value holds

A reader that keeps a value aside, before it knows what the value is to be, takes
less than one that passes over it: every string has to be a text, every number has
to be finite, and the nesting is limited.
-/

namespace ExtensionHost

/-! ## Nesting -/

mutual

/-- How many arrays and objects lie in one another. -/
def Json.depth : Json → Nat
  | .array items => Json.depthOfItems items + 1
  | .unnamedObject values => Json.depthOfItems values + 1
  | .object members => Json.depthOfMembers members + 1
  | _ => 0

/-- The greatest depth among values. -/
def Json.depthOfItems : List Json → Nat
  | [] => 0
  | v :: rest => max v.depth (Json.depthOfItems rest)

/-- The greatest depth among the values of members. -/
def Json.depthOfMembers : List (String × Json) → Nat
  | [] => 0
  | (_, v) :: rest => max v.depth (Json.depthOfMembers rest)

end

/-- The depth that a text may have whose values are kept. -/
def depthLimit : Nat := 127

/-! ## Texts and numbers -/

mutual

/-- Whether every string in the value is a text and every number is finite. -/
def Json.isSound : Json → Bool
  | .int n => (DecimalLiteral.ofInt n).stepwise?.isSome
  | .decimal l => l.stepwise?.isSome
  | .unpairedText | .unnamedObject _ => false
  | .array items => Json.areSound items
  | .object members => Json.areMembersSound members
  | _ => true

/-- Whether all values are sound. -/
def Json.areSound : List Json → Bool
  | [] => true
  | v :: rest => v.isSound && Json.areSound rest

/-- Whether the values of all members are sound. -/
def Json.areMembersSound : List (String × Json) → Bool
  | [] => true
  | (_, v) :: rest => v.isSound && Json.areMembersSound rest

end

/-- Whether the value can be kept where so many arrays and objects lie around it. -/
def Json.isKeepable (around : Nat) (v : Json) : Bool :=
  v.isSound && around + v.depth ≤ depthLimit

end ExtensionHost
