import ExtensionHost.Yaml.Cursor

/-!
# Scalars

The texts of scalars in their five styles. In plain and quoted scalars a single
line break becomes a space, and of several the first one is dropped; a folded
block scalar does the same between lines that are not indented further; a literal
one keeps every line.
-/

namespace ExtensionHost.Yaml

/-- How a scalar is written. -/
inductive ScalarStyle where
  | plain
  | singleQuoted
  | doubleQuoted
  | literal
  | folded
  deriving DecidableEq, Repr

/-! ## Spacing inside scalars -/

/-- The spacing met so far between two words of a scalar: the gaps on the first
line, or the first line break and the ones after it. -/
structure Spacing where
  broken : Bool
  gaps : List Char
  firstBreak : List Char
  moreBreaks : List Char

/-- No spacing. -/
def Spacing.none : Spacing := ⟨false, [], [], []⟩

/-- What the spacing stands for. -/
def Spacing.text (s : Spacing) : List Char :=
  if s.broken then
    if s.firstBreak.head? == some '\n' then
      if s.moreBreaks.isEmpty then [' '] else s.moreBreaks
    else s.firstBreak ++ s.moreBreaks
  else s.gaps

/-- Reads spacing. A tab in front of the column given, on a line of its own, is an
error. -/
def readSpacing (indent : Nat) : Nat → Cursor → Spacing → Option (Spacing × Cursor)
  | 0, c, s => some (s, c)
  | fuel + 1, c, s =>
    match c.rest with
    | [] => some (s, c)
    | x :: _ =>
      if isGap x then
        if s.broken then
          if x == '\t' && c.column < indent then Option.none
          else readSpacing indent fuel (c.skip 1) s
        else readSpacing indent fuel (c.skip 1) { s with gaps := s.gaps ++ [x] }
      else if isBreak x then
        let (text, c) := c.takeBreak
        if s.broken then readSpacing indent fuel c { s with moreBreaks := s.moreBreaks ++ text }
        else readSpacing indent fuel c { s with broken := true, gaps := [], firstBreak := text }
      else some (s, c)

/-! ## Plain scalars -/

/-- Reads a word of a plain scalar. In a flow collection a colon in front of a
flow mark is an error. -/
def readPlainWord (flow : Bool) : Nat → Cursor → Option (List Char × Cursor)
  | 0, c => some ([], c)
  | fuel + 1, c =>
    match c.rest with
    | [] => some ([], c)
    | x :: rest =>
      if isSpacing x then some ([], c)
      else if flow && x == ':' &&
          (match rest with | y :: _ => isFlowMark y || y == '?' | [] => false) then none
      else if x == ':' && atSpacing rest then some ([], c)
      else if flow && isFlowMark x then some ([], c)
      else (readPlainWord flow fuel (c.skip 1)).map fun (word, c) => (x :: word, c)

/-- Reads the words of a plain scalar, with the spacing before the next one. A
scalar goes on over lines that are indented at least to the column given. Also
tells whether a line break ends it. -/
def readPlain (flow : Bool) (indent : Nat) :
    Nat → Cursor → List Char → Spacing → Option (List Char × Cursor × Bool)
  | 0, _, _, _ => none
  | fuel + 1, c, text, spacing =>
    if c.atDocumentMark || c.rest.head? == some '#' then some (text, c, spacing.broken)
    else
      match readPlainWord flow c.rest.length c with
      | none => none
      | some (word, after) =>
        let text := if word.isEmpty then text else text ++ spacing.text ++ word
        let spacing := if word.isEmpty then spacing else Spacing.none
        match after.rest with
        | x :: _ =>
          if isSpacing x then
            match readSpacing indent after.rest.length after spacing with
            | none => none
            | some (spacing, next) =>
              if !flow && next.column < indent then some (text, next, spacing.broken)
              else readPlain flow indent fuel next text spacing
          else some (text, after, spacing.broken)
        | [] => some (text, after, spacing.broken)

/-! ## Quoted scalars -/

/-- The character of a short escape. -/
def shortEscape? (c : Char) : Option Char :=
  if c == '0' then some (Char.ofNat 0)
  else if c == 'a' then some (Char.ofNat 7)
  else if c == 'b' then some (Char.ofNat 8)
  else if c == 't' || c == '\t' then some '\t'
  else if c == 'n' then some '\n'
  else if c == 'v' then some (Char.ofNat 11)
  else if c == 'f' then some (Char.ofNat 12)
  else if c == 'r' then some '\r'
  else if c == 'e' then some (Char.ofNat 27)
  else if c == ' ' || c == '"' || c == '/' || c == '\\' then some c
  else if c == 'N' then some (Char.ofNat 0x85)
  else if c == '_' then some (Char.ofNat 0xA0)
  else if c == 'L' then some (Char.ofNat 0x2028)
  else if c == 'P' then some (Char.ofNat 0x2029)
  else none

/-- How many hexadecimal digits follow a numeric escape. -/
def escapeLength? (c : Char) : Option Nat :=
  if c == 'x' then some 2 else if c == 'u' then some 4 else if c == 'U' then some 8 else none

/-- A word of a quoted scalar, and whether an escaped line break ends it. -/
def readQuotedWord (double : Bool) : Nat → Cursor → Option (List Char × Bool × Cursor)
  | 0, c => some ([], false, c)
  | fuel + 1, c =>
    let put := fun (x : Char) (c : Cursor) =>
      (readQuotedWord double fuel c).map fun (word, escaped, c) => (x :: word, escaped, c)
    match c.rest with
    | [] => some ([], false, c)
    | x :: rest =>
      if isSpacing x then some ([], false, c)
      else if !double && x == '\'' then
        match rest with
        | '\'' :: _ => put '\'' (c.skip 2)
        | _ => some ([], false, c)
      else if double && x == '"' then some ([], false, c)
      else if double && x == '\\' then
        match rest with
        | [] => none
        | e :: digits =>
          if isBreak e then some ([], true, (c.skip 1).takeBreak.2)
          else
            match shortEscape? e with
            | some y => put y (c.skip 2)
            | none =>
              match escapeLength? e with
              | none => none
              | some n =>
                match parseDigits? 16 (digits.take n) with
                | none => none
                | some value =>
                  if (digits.take n).length < n || (0xD800 ≤ value && value ≤ 0xDFFF) ||
                      0x10FFFF < value then none
                  else put (Char.ofNat value) (c.skip (2 + n))
      else put x (c.skip 1)

/-- The text of a quoted scalar, after its opening quote. -/
def readQuoted (double : Bool) : Nat → Cursor → List Char → Option (List Char × Cursor)
  | 0, _, _ => none
  | fuel + 1, c, text =>
    if c.atDocumentMark then none
    else
      match readQuotedWord double c.rest.length c with
      | none => none
      | some (word, escaped, after) =>
        let text := text ++ word
        match after.rest with
        | [] => none
        | x :: _ =>
          if !escaped && x == (if double then '"' else '\'') then some (text, after.skip 1)
          else
            match readSpacing 0 after.rest.length after ⟨escaped, [], [], []⟩ with
            | none => none
            | some (spacing, next) => readQuoted double fuel next (text ++ spacing.text)

/-! ## Block scalars -/

/-- What happens to the line breaks at the end of a block scalar. -/
inductive Chomping where
  | strip
  | clip
  | keep
  deriving DecidableEq, Repr

/-- The marks after the indicator of a block scalar: how its end is treated, and
how far it is indented. Either may come first; an indentation of zero is an
error. -/
def readBlockHeader (c : Cursor) : Option (Chomping × Option Nat × Cursor) :=
  let chomping := fun (c : Cursor) =>
    match c.rest with
    | '+' :: _ => (some Chomping.keep, c.skip 1)
    | '-' :: _ => (some Chomping.strip, c.skip 1)
    | _ => (none, c)
  let digit := fun (c : Cursor) =>
    match c.rest with
    | d :: _ => match digitIn? 10 d with
      | some 0 => none
      | some n => some (some n, c.skip 1)
      | none => some (none, c)
    | [] => some (none, c)
  match chomping c with
  | (some mark, c) => (digit c).map fun (indent, c) => (mark, indent, c)
  | (none, c) =>
    match digit c with
    | none => none
    | some (none, c) => some (.clip, none, c)
    | some (some n, c) =>
      let (mark, c) := chomping c
      some (mark.getD .clip, some n, c)

/-- Reads empty lines in front of a line of a block scalar. While the indentation
is not known it grows with the lines; a tab inside it is an error. Gives the line
breaks and the deepest column met. -/
def readBlockBreaks (indent : Option Nat) :
    Nat → Cursor → List Char → Nat → Option (List Char × Nat × Cursor)
  | 0, c, breaks, deepest => some (breaks, deepest, c)
  | fuel + 1, c, breaks, deepest =>
    let room := match indent with
      | some n => n - c.column
      | none => c.rest.length
    let spaces := (c.rest.take room).takeWhile (· == ' ')
    let c := c.skip spaces.length
    let deepest := max deepest c.column
    let inside := match indent with
      | some n => c.column < n
      | none => true
    match c.rest with
    | x :: _ =>
      if inside && x == '\t' then none
      else if isBreak x then
        let (text, c) := c.takeBreak
        readBlockBreaks indent fuel c (breaks ++ text) deepest
      else some (breaks, deepest, c)
    | [] => some (breaks, deepest, c)

/-- Reads the lines of a block scalar at its indentation, and what is left at its
end: the last line break and the ones after it. -/
def readBlockLines (folded : Bool) (indent : Nat) :
    Nat → Cursor → List Char → List Char → List Char → Bool →
      Option (List Char × List Char × List Char × Cursor)
  | 0, c, text, lineBreak, breaks, _ => some (text, lineBreak, breaks, c)
  | fuel + 1, c, text, lineBreak, breaks, afterGap =>
    if c.column != indent || c.rest.isEmpty then some (text, lineBreak, breaks, c)
    else
      let startsWithGap := match c.rest with
        | x :: _ => isGap x
        | [] => false
      let joint :=
        if folded && lineBreak.head? == some '\n' && !afterGap && !startsWithGap then
          if breaks.isEmpty then [' '] else []
        else lineBreak
      let (line, c) := c.takeWhile (fun x => !isBreak x)
      let (lineBreak, c') := c.takeBreak
      match readBlockBreaks (some indent) c'.rest.length c' [] 0 with
      | none => none
      | some (more, _, next) =>
        readBlockLines folded indent fuel next (text ++ joint ++ breaks ++ line) lineBreak more
          startsWithGap

/-- The text of a block scalar, after its indicator, inside a block at the
indentation given. -/
def readBlock (folded : Bool) (parent : Int) (c : Cursor) : Option (List Char × Cursor) := do
  let (chomping, increment, c) ← readBlockHeader c
  let (_, c) := c.takeWhile isGap
  let c := if c.rest.head? == some '#' then (c.takeWhile (fun x => !isBreak x)).2 else c
  match c.rest with
  | x :: _ => if !isBreak x then none
  | [] => pure ()
  let (_, c) := c.takeBreak
  let known := increment.map fun n => (if 0 ≤ parent then parent.toNat + n else n)
  let (breaks, deepest, c) ← readBlockBreaks known c.rest.length c [] 0
  let indent := known.getD (max (max deepest (parent + 1).toNat) 1)
  let (text, lineBreak, breaks, c) ←
    readBlockLines folded indent (c.rest.length + 1) c [] [] breaks false
  return (match chomping with
    | .strip => (text, c)
    | .clip => (text ++ lineBreak, c)
    | .keep => (text ++ lineBreak ++ breaks, c))

end ExtensionHost.Yaml
