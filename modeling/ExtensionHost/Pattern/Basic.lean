/-!
# Patterns

A pattern describes texts: characters and sets of characters in sequence, with
alternatives, repetitions and groups. The types here hold a pattern as it is
written, with the flags that change how the rest of a group is meant.
-/

namespace ExtensionHost

/-! ## Characters and sets of them -/

/-- A character of a pattern. It may be written as a byte, with two digits. -/
structure PatternChar where
  char : Char
  asByte : Bool
  deriving DecidableEq, Repr

/-- The sets of characters that a letter stands for. -/
inductive Shorthand where
  | digits
  | blanks
  | wordChars
  deriving DecidableEq, Repr

/-- How two sets are combined. -/
inductive SetOperation where
  | common
  | difference
  | inOnlyOne
  deriving DecidableEq, Repr

/-- A set of characters, as it is written between brackets. -/
inductive CharSet where
  | empty
  | char (c : PatternChar)
  | range (first last : PatternChar)
  | named (negated : Bool) (name : String)
  | shorthand (negated : Bool) (s : Shorthand)
  | bracketed (negated : Bool) (inside : CharSet)
  | union (parts : List CharSet)
  | combined (operation : SetOperation) (left right : CharSet)

/-- The names of sets between brackets and colons. -/
def charSetNames : List String :=
  ["alnum", "alpha", "ascii", "blank", "cntrl", "digit", "graph", "lower", "print", "punct",
   "space", "upper", "word", "xdigit"]

/-! ## Patterns -/

/-- The flags of a pattern: letters match without regard to case, edges of lines count as
edges, the dot matches line breaks, repetitions take as little as they can, line breaks
may take two characters, characters are those of every script, and blanks and comments
say nothing. -/
inductive PatternFlag where
  | caseless
  | manyLines
  | dotMatchesBreak
  | reluctant
  | pairedBreaks
  | unicode
  | spaced
  deriving DecidableEq, Repr

/-- A flag that is set or cleared. -/
structure FlagChange where
  flag : PatternFlag
  on : Bool
  deriving DecidableEq, Repr

/-- The flag after the changes. -/
def flagAfter (flag : PatternFlag) (changes : List FlagChange) (before : Bool) : Bool :=
  ((changes.find? (·.flag = flag)).map (·.on)).getD before

/-- Places in a text that take up no characters. -/
inductive PatternEdge where
  | lineStart
  | lineEnd
  | textStart
  | textEnd
  | word
  | noWord
  | wordStart
  | wordEnd
  deriving DecidableEq, Repr

/-- Whether the edge is told by the letters around it. -/
def PatternEdge.isOfWord : PatternEdge → Bool
  | .word | .noWord | .wordStart | .wordEnd => true
  | _ => false

/-- How often a part is repeated. -/
inductive Repetition where
  | optional
  | any
  | atLeastOnce
  deriving DecidableEq, Repr

/-- A pattern, as it is written. -/
inductive Pattern where
  | empty
  | char (c : PatternChar)
  | anyChar
  | edge (e : PatternEdge)
  | shorthand (negated : Bool) (s : Shorthand)
  | set (s : CharSet)
  | flags (changes : List FlagChange)
  | group (changes : List FlagChange) (inside : Pattern)
  | repeated (how : Repetition) (inside : Pattern)
  | sequence (parts : List Pattern)
  | alternatives (branches : List Pattern)

/-! ## Nesting -/

mutual

/-- How deep brackets, unions and operations lie in one another. -/
def CharSet.depth : CharSet → Nat
  | .bracketed _ inside => inside.depth + 1
  | .union parts => CharSet.depthAmong parts + 1
  | .combined _ left right => max left.depth right.depth + 1
  | _ => 0

/-- The greatest depth among sets. -/
def CharSet.depthAmong : List CharSet → Nat
  | [] => 0
  | s :: rest => max s.depth (CharSet.depthAmong rest)

end

mutual

/-- How deep the parts of a pattern lie in one another. -/
def Pattern.depth : Pattern → Nat
  | .set s => s.depth
  | .group _ inside | .repeated _ inside => inside.depth + 1
  | .sequence parts | .alternatives parts => Pattern.depthAmong parts + 1
  | _ => 0

/-- The greatest depth among patterns. -/
def Pattern.depthAmong : List Pattern → Nat
  | [] => 0
  | p :: rest => max p.depth (Pattern.depthAmong rest)

end

/-- The depth that a pattern may have. -/
def patternDepthLimit : Nat := 250

end ExtensionHost
