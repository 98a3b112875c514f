import ExtensionHost.BatchResult
import ExtensionHost.Decimal.Binary
import ExtensionHost.Text.Lower
import ExtensionHost.Text.Number
import ExtensionHost.Value.Basic

/-!
# Layers of settings

Settings from several sources are put together in one tree of values before they
are read. Names in the tree are in lower case. A table is laid over another one
entry by entry, and any other value takes the place of what was there.
-/

namespace ExtensionHost

/-! ## Values of settings -/

/-- A value in a layer of settings. -/
inductive Setting where
  | null
  | bool (b : Bool)
  | int (n : Int)
  | decimal (x : Double)
  | text (s : String)
  | list (items : List Setting)
  | table (entries : List (String × Setting))
  deriving Inhabited

/-- The entries of a table; any other value has none. -/
def Setting.entries : Setting → List (String × Setting)
  | .table entries => entries
  | _ => []

/-- The items of a list; any other value has none. -/
def Setting.items : Setting → List Setting
  | .list items => items
  | _ => []

/-- An integer of eight bytes in a text. -/
def parseLong? (cs : List Char) : Option Int :=
  match parseSigned? 10 cs with
  | some n => if longMin ≤ n ∧ n ≤ longMax then some n else none
  | none => none

/-! ## Places -/

/-- A step on the way to a setting. A negative position counts from the end of a
list. -/
inductive SettingStep where
  | name (s : String)
  | position (n : Int)
  deriving DecidableEq, Repr

/-- A character of a name on the way to a setting. -/
def isSettingChar (c : Char) : Bool :=
  c.isAlphanum || c == '_' || c == '-' || c == ' '

/-- A space or a tab. -/
def isInlineBlank (c : Char) : Bool :=
  c == ' ' || c == '\t'

/-- A position with blanks around it, and the text after it. -/
def readPosition (cs : List Char) : Option (Int × List Char) :=
  let cs := cs.dropWhile isInlineBlank
  let (sign, cs) := match cs with
    | '-' :: rest => (['-'], rest)
    | rest => ([], rest)
  (parseLong? (sign ++ cs.takeWhile isDigit)).map
    (·, (cs.dropWhile isDigit).dropWhile isInlineBlank)

/-- The steps after the first name: names behind dots, positions in brackets. -/
def readSettingSteps : Nat → List Char → Option (List SettingStep)
  | _, [] => some []
  | 0, _ => none
  | fuel + 1, '.' :: cs =>
    let name := cs.takeWhile isSettingChar
    if name.isEmpty then none
    else (readSettingSteps fuel (cs.drop name.length)).map (.name (String.ofList name) :: ·)
  | fuel + 1, '[' :: cs =>
    match readPosition cs with
    | some (n, ']' :: rest) => (readSettingSteps fuel rest).map (.position n :: ·)
    | _ => none
  | _ + 1, _ => none

/-- The way that a text describes. Any other text is a name of its own. -/
def settingSteps (s : String) : List SettingStep :=
  (readSettingSteps (s.length + 1) ('.' :: s.toList)).getD [.name s]

/-- The place in a list of some length that a position means. -/
def placeInList (n : Int) (length : Nat) : Nat :=
  if 0 ≤ n then n.natAbs else length - n.natAbs

/-! ## Putting layers together -/

mutual

/-- A value laid over what is there. A table is laid over entry by entry. -/
def Setting.over (current : Option Setting) : Setting → Setting
  | .table entries => Setting.entriesOver (current.getD (.table [])) entries
  | value => value

/-- Entries laid over a value. -/
def Setting.entriesOver (current : Setting) : List (String × Setting) → Setting
  | [] => current
  | (name, value) :: rest =>
    let entries := current.entries
    let merged := Setting.over (entries.lookup (lowerText name)) value
    Setting.entriesOver (.table (insertEntry (lowerText name) merged entries)) rest

end

/-- The list with a value at a position, and nulls up to it. -/
def setAt (position : Nat) (value : Setting) (items : List Setting) : List Setting :=
  (items ++ List.replicate (position + 1 - items.length) Setting.null).set position value

/-- Puts a value at the end of a way. What stands in the way gives way. -/
def Setting.put (value : Setting) : List SettingStep → Option Setting → Setting
  | [], current => Setting.over current value
  | .name s :: rest, current =>
    let entries := (current.getD .null).entries
    let entry := Setting.put value rest (entries.lookup (lowerText s))
    .table (insertEntry (lowerText s) entry entries)
  | [.position n], current =>
    let items := (current.getD .null).items
    .list (setAt (placeInList n items.length) value items)
  | .position n :: rest, current =>
    let items := (current.getD .null).items
    let place := placeInList n items.length
    .list (setAt place (Setting.put value rest items[place]?) items)

/-- A layer laid over a tree: each of its names is the way to a setting. -/
def Setting.layer (tree : Setting) (entries : List (String × Setting)) : Setting :=
  entries.foldl (fun tree (name, value) => Setting.put value (settingSteps name) (some tree)) tree

end ExtensionHost
