import ExtensionHost.Error.Basic
import ExtensionHost.Text.Blank

/-!
# Version compatibility

A change of version is compatible if the two versions are the same text, or if
both start with a number and the number does not become smaller. Blanks around a
version and letters v in front of it do not count.
-/

namespace ExtensionHost

/-- The largest number that a version may start with. -/
def versionLimit : Nat := 18446744073709551615

/-- The digits that a version starts with. -/
def versionDigits (version : String) : List Char :=
  ((trimBlank version.toList).dropWhile (fun c => c == 'v' || c == 'V')).takeWhile isDigit

/-- The number that a version starts with, if there is one and it is not too large. -/
def leadingNumber? (version : String) : Option Nat :=
  match parseDigits? 10 (versionDigits version) with
  | some n => if n ≤ versionLimit then some n else none
  | none => none

/-- Whether a version may take the place of another one. -/
def isCompatible (fromVersion toVersion : String) : Bool :=
  fromVersion == toVersion ||
    match leadingNumber? fromVersion, leadingNumber? toVersion with
    | some old, some new => old ≤ new
    | _, _ => false

/-- Fails if the second version may not take the place of the first one. -/
def checkVersionCompatibility (id fromVersion toVersion : String) : Except LifecycleError Unit :=
  if isCompatible fromVersion toVersion then .ok ()
  else .error (.versionIncompatibility id fromVersion toVersion)

end ExtensionHost
