import ExtensionHost.Pattern.Reader

/-!
# Patterns that can be matched

A pattern is matched without tables of scripts, and only against texts. So nothing in it
may need to know which characters of all scripts are letters, digits or blanks, or which
differ only in case; and nothing in it may match a part of a character.
-/

namespace ExtensionHost

/-! ## The flags that count -/

/-- Whether characters are matched without regard to case, and whether characters
of every script count. -/
structure MatchMode where
  caseless : Bool
  unicode : Bool
  deriving DecidableEq, Repr

/-- The mode at the start of a pattern. -/
def MatchMode.start : MatchMode := ⟨false, true⟩

/-- The mode after changes of flags. -/
def MatchMode.change (mode : MatchMode) (changes : List FlagChange) : MatchMode :=
  ⟨flagAfter .caseless changes mode.caseless, flagAfter .unicode changes mode.unicode⟩

/-! ## Sets -/

/-- Whether the character may stand in a set. -/
def MatchMode.allowsInSet (mode : MatchMode) (c : PatternChar) : Bool :=
  if mode.unicode then !mode.caseless else c.char.toNat < 0x80

/-- Whether a shorthand may be used. -/
def MatchMode.allowsShorthand (mode : MatchMode) (negated : Bool) : Bool :=
  !mode.unicode && !negated

mutual

/-- Whether a set can be matched. Where characters of other scripts do not count, what
lies outside of a set is not known. -/
def CharSet.isSupported (mode : MatchMode) : CharSet → Bool
  | .empty => true
  | .char c => mode.allowsInSet c
  | .range first last => mode.allowsInSet first && mode.allowsInSet last
  | .named negated _ => if mode.unicode then !mode.caseless else !negated
  | .shorthand negated _ => mode.allowsShorthand negated
  | .bracketed negated inside => (mode.unicode || !negated) && inside.isSupported mode
  | .union parts => CharSet.areSupported mode parts
  | .combined _ left right => left.isSupported mode && right.isSupported mode

/-- Whether all sets can be matched. -/
def CharSet.areSupported (mode : MatchMode) : List CharSet → Bool
  | [] => true
  | s :: rest => s.isSupported mode && CharSet.areSupported mode rest

end

/-! ## Patterns -/

/-- Whether the character may stand in a pattern, outside of sets. -/
def MatchMode.allows (mode : MatchMode) (c : PatternChar) : Bool :=
  if mode.unicode then !mode.caseless else !c.asByte || c.char.toNat < 0x80

mutual

/-- The mode after a pattern, if it can be matched. Flags hold up to the end of the
group that they are set in, in the alternatives to come as well. -/
def Pattern.modeAfter? (mode : MatchMode) : Pattern → Option MatchMode
  | .empty => some mode
  | .char c => if mode.allows c then some mode else none
  | .anyChar => if mode.unicode then some mode else none
  | .edge e => if mode.unicode && e.isOfWord then none else some mode
  | .shorthand negated _ => if mode.allowsShorthand negated then some mode else none
  | .set s => if s.isSupported mode then some mode else none
  | .flags changes => some (mode.change changes)
  | .group changes inside => (inside.modeAfter? (mode.change changes)).map fun _ => mode
  | .repeated _ inside => inside.modeAfter? mode
  | .sequence parts | .alternatives parts => Pattern.modeAfterAll? mode parts

/-- The mode after one pattern behind the other. -/
def Pattern.modeAfterAll? (mode : MatchMode) : List Pattern → Option MatchMode
  | [] => some mode
  | p :: rest => (p.modeAfter? mode).bind fun mode => Pattern.modeAfterAll? mode rest

end

/-- Whether a pattern can be matched. -/
def Pattern.isSupported (p : Pattern) : Bool :=
  p.depth ≤ patternDepthLimit && (p.modeAfter? .start).isSome

/-- Whether a text writes a pattern that can be matched. -/
def isPattern (cs : List Char) : Bool :=
  (Pattern.parse? cs).any (·.isSupported)

end ExtensionHost
