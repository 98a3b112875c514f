import ExtensionHost.Decimal.Literal
import ExtensionHost.Pattern.Support
import ExtensionHost.Settings.Basic
import ExtensionHost.Text.Bytes

/-!
# Log filters

Which texts are log filters, and what happens when logging is set up. A filter
is a list of directives with commas between them; a directive names a level, or
a target, or spans with fields, with a level after an equals sign.
-/

namespace ExtensionHost

/-! ## Levels of a filter -/

/-- Whether a text names the level of a directive: a level, `off`, a rank from
zero, or nothing. -/
def isFilterLevel (s : String) : Bool :=
  match parseUnsigned? 10 s.toList with
  | some n => n ≤ 5
  | none => s.isEmpty || equalIgnoringCase s "off" ||
      LogLevel.all.any (equalIgnoringCase ·.name s)

/-! ## Fields -/

/-- Whether a text is a value that fields are compared with. -/
def isFieldValue (cs : List Char) : Bool :=
  cs == "true".toList || cs == "false".toList || (Double.parse? cs).isSome || isPattern cs

/-- Whether a text names a field, with a value behind an equals sign or without one. What
stands behind a second sign does not count. -/
def isFieldFilter (cs : List Char) : Bool :=
  match cs.dropWhile (· != '=') with
  | [] => !cs.isEmpty
  | _ :: rest => isFieldValue (rest.takeWhile (· != '='))

/-! ## Directives -/

/-- How far the reading of a directive has come. Positions count bytes. -/
inductive DirectiveState where
  | start
  | levelOrTarget
  | span
  | field (first : Nat)
  | fields
  | target
  | level (first : Nat)
  deriving DecidableEq, Repr

/-- Whether a directive may start with the character. -/
def startsDirective (c : Char) : Bool :=
  c == '-' || c == ':' || c == '_' || isAlphanumeric c

/-- The state after the character at a position of the text, unless it does not fit. -/
def DirectiveState.next (text : List Char) (position : Nat) (c : Char) :
    DirectiveState → Option DirectiveState
  | .start =>
    if c == '[' then some .span else if startsDirective c then some .levelOrTarget else none
  | .levelOrTarget =>
    if c == '=' then some (.level (position + 1))
    else if c == '[' then some .span else some .levelOrTarget
  | .span =>
    if c == ']' then some .target
    else if c.toNat == 0x7B then some (.field (position + 1)) else some .span
  | .field first =>
    if c.toNat == 0x7D then
      match (dropBytes? first text).bind (takeBytes? (position - first)) with
      | some written => if isFieldFilter written then some .fields else none
      | none => none
    else some (.field first)
  | .fields => if c == ']' then some .target else none
  | .target => if c == '=' then some (.level (position + 1)) else none
  | .level first => some (.level first)

/-- Reads the rest of a directive from a position. -/
def readDirective (text : List Char) : Nat → List Char → DirectiveState → Option DirectiveState
  | _, [], state => some state
  | position, c :: cs, state =>
    (state.next text position c).bind (readDirective text (position + c.utf8Size) cs)

/-- Whether a text is a directive. Blanks around it do not count when it is read,
but positions are those of the whole text. -/
def isDirective (s : String) : Bool :=
  match readDirective s.toList 0 (trimBlank s.toList) .start with
  | some .levelOrTarget | some .target => true
  | some (.level first) =>
    (dropBytes? first s.toList).any fun level =>
      level.isEmpty || isFilterLevel (String.ofList level)
  | _ => false

/-- Whether a text is a filter. Nothing between commas is no directive at all. -/
def isLogFilter (s : String) : Bool :=
  (s.splitOn ",").all fun d => d.isEmpty || isDirective d

/-! ## Setting up -/

/-- What stands in messages for the words of a parser or of the system. -/
def foreignDetail : String := "<detail>"

/-- Sets up logging, which can be done once. A filter from the environment takes
precedence over the settings if it is one, but the level of the settings is
checked first. -/
def LogSettings.install (s : LogSettings) (environment : Option String) (installed : Bool) :
    Except HostError Unit :=
  match s.parseLevel with
  | .error e => .error (.config e)
  | .ok _ =>
    if !(environment.any isLogFilter) && !isLogFilter s.directives then
      .error (.internal ("Invalid log filter: " ++ foreignDetail))
    else if installed then
      .error (.internal
        "Failed to install subscriber: a global default trace dispatcher has already been set")
    else .ok ()

end ExtensionHost
