import ExtensionHost.Pattern.Basic
import ExtensionHost.Text.Blank
import ExtensionHost.Text.Number
import ExtensionHost.Text.Numeral

/-!
# Reading patterns

The pattern that a text writes, if it writes one. While the flag for it is set,
blanks and comments between the parts of a pattern say nothing.
-/

namespace ExtensionHost

/-! ## Spacing -/

/-- The text behind blanks and comments. A comment ends with its line. -/
def behindSpacing (inComment : Bool) : List Char → List Char
  | [] => []
  | c :: cs =>
    if inComment then behindSpacing (c != '\n') cs
    else if isBlank c then behindSpacing false cs
    else if c == '#' then behindSpacing true cs
    else c :: cs

/-- The text behind what says nothing. -/
def skipSpacing (spaced : Bool) (cs : List Char) : List Char :=
  if spaced then behindSpacing false cs else cs

/-- The character that decides whether a hyphen makes a range. Of a comment in front
of it only the mark is passed over. -/
def afterHyphen? (spaced : Bool) (cs : List Char) : Option Char :=
  if !spaced then cs.head?
  else
    match trimBlankStart cs with
    | '#' :: rest => (trimBlankStart rest).head?
    | rest => rest.head?

/-! ## Escapes -/

/-- What a backslash and the characters after it stand for. -/
inductive PatternEscape where
  | char (c : PatternChar)
  | edge (e : PatternEdge)
  | shorthand (negated : Bool) (s : Shorthand)

/-- Reads a number of hexadecimal digits, with spacing in front of each. -/
def readHexDigits? (spaced : Bool) : Nat → List Char → Option (List Char × List Char)
  | 0, cs => some ([], cs)
  | n + 1, cs =>
    match skipSpacing spaced cs with
    | [] => none
    | c :: rest =>
      if (digitIn? 16 c).isSome then
        (readHexDigits? spaced n rest).map fun (digits, rest) => (c :: digits, rest)
      else none

/-- Reads a character that is written by its number. -/
def readNumbered? (spaced : Bool) (digits : Nat) (cs : List Char) :
    Option (PatternEscape × List Char) := do
  let (written, rest) ← readHexDigits? spaced digits cs
  let value := numberOfDigits 16 written
  if (0xD800 ≤ value && value ≤ 0xDFFF) || 0x10FFFF < value then none
  else return (.char ⟨Char.ofNat value, digits == 2⟩, rest)

/-- The character that stands for itself after a backslash: any of ASCII that is no
letter, no digit and no angle. -/
def isEscapable (c : Char) : Bool :=
  c.toNat < 0x80 && !c.isAlphanum && c != '<' && c != '>'

/-- What a single character after a backslash stands for. -/
def PatternEscape.ofLetter? (c : Char) : Option PatternEscape :=
  if isEscapable c then some (.char ⟨c, false⟩)
  else
    match c with
    | 'a' => some (.char ⟨Char.ofNat 0x07, false⟩)
    | 'f' => some (.char ⟨Char.ofNat 0x0C, false⟩)
    | 'n' => some (.char ⟨'\n', false⟩)
    | 'r' => some (.char ⟨'\r', false⟩)
    | 't' => some (.char ⟨'\t', false⟩)
    | 'v' => some (.char ⟨Char.ofNat 0x0B, false⟩)
    | 'A' => some (.edge .textStart)
    | 'z' => some (.edge .textEnd)
    | 'b' => some (.edge .word)
    | 'B' => some (.edge .noWord)
    | '<' => some (.edge .wordStart)
    | '>' => some (.edge .wordEnd)
    | 'd' => some (.shorthand false .digits)
    | 'D' => some (.shorthand true .digits)
    | 's' => some (.shorthand false .blanks)
    | 'S' => some (.shorthand true .blanks)
    | 'w' => some (.shorthand false .wordChars)
    | 'W' => some (.shorthand true .wordChars)
    | _ => none

/-- Reads what comes after a backslash. -/
def readPatternEscape? (spaced : Bool) : List Char → Option (PatternEscape × List Char)
  | [] => none
  | 'x' :: cs => readNumbered? spaced 2 cs
  | 'u' :: cs => readNumbered? spaced 4 cs
  | 'U' :: cs => readNumbered? spaced 8 cs
  | c :: cs => (PatternEscape.ofLetter? c).map (·, cs)

/-! ## Sets -/

/-- Reads a named set behind its bracket. -/
def readNamedSet? : List Char → Option (CharSet × List Char)
  | ':' :: cs =>
    let (negated, cs) := match cs with
      | '^' :: rest => (true, rest)
      | rest => (false, rest)
    let name := String.ofList (cs.takeWhile (· != ':'))
    match cs.dropWhile (· != ':') with
    | ':' :: ']' :: rest =>
      if charSetNames.contains name then some (.named negated name, rest) else none
    | _ => none
  | _ => none

/-- Reads one end of a range, or a part of a set that is no range. -/
def readSetChar? (spaced : Bool) : List Char → Option (PatternEscape × List Char)
  | [] => none
  | '\\' :: cs => readPatternEscape? spaced cs
  | c :: cs => some (.char ⟨c, false⟩, cs)

/-- Reads a part of a set: a character, a shorthand or a range. A hyphen in front of the
end of the set, or in front of another hyphen, makes no range. -/
def readSetPart? (spaced : Bool) (cs : List Char) : Option (CharSet × List Char) := do
  let (first, rest) ← readSetChar? spaced cs
  let alone : Option CharSet := match first with
    | .char c => some (.char c)
    | .shorthand negated s => some (.shorthand negated s)
    | .edge _ => none
  match skipSpacing spaced rest with
  | '-' :: rest' =>
    let next := afterHyphen? spaced rest'
    if next == some ']' || next == some '-' then return (← alone, '-' :: rest')
    else
      match first, ← readSetChar? spaced (skipSpacing spaced rest') with
      | .char first, (.char last, rest) =>
        if first.char.toNat ≤ last.char.toNat then return (.range first last, rest) else none
      | _, _ => none
  | rest => return (← alone, rest)

/-- The set of parts, the last one first. -/
def CharSet.ofParts : List CharSet → CharSet
  | [] => .empty
  | [s] => s
  | parts => .union parts.reverse

/-- The set on the left of an operation, if there is one, combined with the parts on
its right. -/
def CharSet.combine (left : Option (SetOperation × CharSet)) (parts : List CharSet) : CharSet :=
  match left with
  | none => .ofParts parts
  | some (operation, s) => .combined operation s (.ofParts parts)

/-- The operation that two equal characters stand for in a set. -/
def SetOperation.ofMark? : Char → Option SetOperation
  | '&' => some .common
  | '-' => some .difference
  | '~' => some .inOnlyOne
  | _ => none

/-- The operation at the start of the text. -/
def atSetOperation? : List Char → Option SetOperation
  | c :: d :: _ => if c == d then SetOperation.ofMark? c else none
  | _ => none

/-- Reads whether a set is negated, behind its bracket. -/
def readSetNegation (spaced : Bool) (cs : List Char) : Bool × List Char :=
  match skipSpacing spaced cs with
  | '^' :: rest => (true, rest)
  | rest => (false, rest)

/-- Reads a set up to its closing bracket. While it is `opening`, hyphens stand for
themselves, and so does a closing bracket in front of all else. -/
def readSet? (spaced : Bool) :
    Nat → Bool → Option (SetOperation × CharSet) → List CharSet → List Char →
      Option (CharSet × List Char)
  | 0, _, _, _, _ => none
  | fuel + 1, opening, left, parts, cs =>
    let go := fun opening part rest => readSet? spaced fuel opening left (part :: parts) rest
    match skipSpacing spaced cs with
    | [] => none
    | c :: rest =>
      if opening && c == '-' then go true (.char ⟨c, false⟩) rest
      else if c == ']' then
        if opening && parts.isEmpty then go false (.char ⟨c, false⟩) rest
        else some (.combine left parts, rest)
      else if c == '[' then
        match readNamedSet? rest with
        | some (s, rest) => go false s rest
        | none =>
          let (negated, rest) := readSetNegation spaced rest
          match readSet? spaced fuel true none [] rest with
          | some (inside, rest) => go false (.bracketed negated inside) rest
          | none => none
      else
        match atSetOperation? (c :: rest) with
        | some operation =>
          readSet? spaced fuel false (some (operation, .combine left parts)) [] (rest.drop 1)
        | none =>
          match readSetPart? spaced (c :: rest) with
          | some (s, rest) => go false s rest
          | none => none

/-! ## Groups -/

/-- The flag of a letter. -/
def PatternFlag.ofLetter? : Char → Option PatternFlag
  | 'i' => some .caseless
  | 'm' => some .manyLines
  | 's' => some .dotMatchesBreak
  | 'U' => some .reluctant
  | 'R' => some .pairedBreaks
  | 'u' => some .unicode
  | 'x' => some .spaced
  | _ => none

/-- Reads flags up to the character that ends them. No flag is named twice, and the flags
after the hyphen, of which there is one at least, are cleared. -/
def readFlags? (seen : List PatternFlag) (on dangling : Bool) :
    List Char → Option (List FlagChange × Char × List Char)
  | [] => none
  | c :: cs =>
    if c == ':' || c == ')' then if dangling then none else some ([], c, cs)
    else if c == '-' then if on then readFlags? seen false true cs else none
    else
      match PatternFlag.ofLetter? c with
      | none => none
      | some flag =>
        if seen.contains flag then none
        else
          (readFlags? (flag :: seen) on false cs).map fun (changes, last, rest) =>
            (⟨flag, on⟩ :: changes, last, rest)

/-- Whether a text names a group. -/
def isGroupName : List Char → Bool
  | [] => false
  | c :: cs =>
    (c == '_' || isLetter c) &&
      cs.all fun d => d == '_' || d == '.' || d == '[' || d == ']' || isAlphanumeric d

/-- The text of a pattern that is still to be read, with the flag for spacing and the
names of the groups so far. -/
structure PatternInput where
  rest : List Char
  spaced : Bool
  names : List (List Char)

/-- The input after the changes of flags. -/
def PatternInput.change (input : PatternInput) (changes : List FlagChange) : PatternInput :=
  { input with spaced := flagAfter .spaced changes input.spaced }

/-- What a parenthesis opens: a group, or nothing but changes of flags. -/
inductive GroupHead where
  | group (changes : List FlagChange)
  | flags (changes : List FlagChange)

/-- Reads the name of a group and the angle behind it. -/
def PatternInput.readGroupName? (input : PatternInput) (cs : List Char) :
    Option (GroupHead × PatternInput) :=
  let name := cs.takeWhile (· != '>')
  match cs.dropWhile (· != '>') with
  | [] => none
  | _ :: rest =>
    if !isGroupName name || input.names.contains name then none
    else some (.group [], { input with rest, names := name :: input.names })

/-- Reads what comes behind a parenthesis. Groups that look ahead or behind are refused. -/
def PatternInput.readGroupHead? (input : PatternInput) : Option (GroupHead × PatternInput) :=
  match skipSpacing input.spaced input.rest with
  | '?' :: '=' :: _ | '?' :: '!' :: _ | '?' :: '<' :: '=' :: _ | '?' :: '<' :: '!' :: _ => none
  | '?' :: 'P' :: '<' :: cs | '?' :: '<' :: cs => input.readGroupName? cs
  | '?' :: cs =>
    match readFlags? [] true false cs with
    | none => none
    | some (changes, last, rest) =>
      if last == ':' then some (.group changes, { input with rest })
      else if changes.isEmpty then none
      else some (.flags changes, { input with rest })
  | rest => some (.group [], { input with rest })

/-! ## Patterns -/

/-- The pattern of parts in sequence, the last one first. -/
def Pattern.ofParts : List Pattern → Pattern
  | [] => .empty
  | [p] => p
  | parts => .sequence parts.reverse

/-- The pattern of branches, the last one first. -/
def Pattern.ofBranches : List Pattern → Pattern
  | [] => .empty
  | [p] => p
  | branches => .alternatives branches.reverse

/-- The repetition of a mark. -/
def Repetition.ofMark? : Char → Option Repetition
  | '?' => some .optional
  | '*' => some .any
  | '+' => some .atLeastOnce
  | _ => none

/-- The parts with the last one repeated, which is no change of flags. -/
def repeatLast? (how : Repetition) : List Pattern → Option (List Pattern)
  | [] | .flags _ :: _ => none
  | p :: parts => some (.repeated how p :: parts)

/-- Reads a part that is a single character, or a backslash and what belongs to it. An
opening brace is refused. -/
def readAtom? (spaced : Bool) : List Char → Option (Pattern × List Char)
  | [] => none
  | '\\' :: cs =>
    (readPatternEscape? spaced cs).map fun (escape, rest) =>
      match escape with
      | .char c => (.char c, rest)
      | .edge e => (.edge e, rest)
      | .shorthand negated s => (.shorthand negated s, rest)
  | '.' :: cs => some (.anyChar, cs)
  | '^' :: cs => some (.edge .lineStart, cs)
  | '$' :: cs => some (.edge .lineEnd, cs)
  | c :: cs => if c.toNat == 0x7B then none else some (.char ⟨c, false⟩, cs)

/-- Reads a pattern up to the end of the text or to a closing parenthesis, after the
branches and the parts of the last branch so far. -/
def readPattern? : Nat → List Pattern → List Pattern → PatternInput →
    Option (Pattern × PatternInput)
  | 0, _, _, _ => none
  | fuel + 1, branches, parts, input =>
    let rest := skipSpacing input.spaced input.rest
    match rest with
    | [] | ')' :: _ =>
      some (.ofBranches (.ofParts parts :: branches), { input with rest })
    | '|' :: rest => readPattern? fuel (.ofParts parts :: branches) [] { input with rest }
    | '(' :: rest =>
      match ({ input with rest } : PatternInput).readGroupHead? with
      | none => none
      | some (.flags changes, next) =>
        readPattern? fuel branches (.flags changes :: parts) (next.change changes)
      | some (.group changes, next) =>
        match readPattern? fuel [] [] (next.change changes) with
        | some (inside, { rest := ')' :: rest, names, .. }) =>
          readPattern? fuel branches (.group changes inside :: parts) { input with rest, names }
        | _ => none
    | '[' :: rest =>
      let (negated, rest) := readSetNegation input.spaced rest
      match readSet? input.spaced fuel true none [] rest with
      | some (s, rest) =>
        readPattern? fuel branches (.set (.bracketed negated s) :: parts) { input with rest }
      | none => none
    | c :: rest =>
      match Repetition.ofMark? c with
      | some how =>
        match repeatLast? how parts with
        | some parts =>
          let rest := if rest.head? == some '?' then rest.drop 1 else rest
          readPattern? fuel branches parts { input with rest }
        | none => none
      | none =>
        match readAtom? input.spaced (c :: rest) with
        | some (p, rest) => readPattern? fuel branches (p :: parts) { input with rest }
        | none => none

/-- The pattern that a text writes. -/
def Pattern.parse? (cs : List Char) : Option Pattern :=
  match readPattern? (cs.length + 1) [] [] ⟨cs, false, []⟩ with
  | some (p, { rest := [], .. }) => some p
  | _ => none

end ExtensionHost
