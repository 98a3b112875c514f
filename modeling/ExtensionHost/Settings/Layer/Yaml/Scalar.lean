import ExtensionHost.Settings.Layer.Yaml.Cursor

/-!
# Scalars of a layer

The texts of scalars in their five styles. A scalar lies inside a block at some
indentation, and its lines may not start in front of it.
-/

namespace ExtensionHost.LayerYaml

/-! ## Spacing inside scalars -/

/-- The spacing met so far between two words of a scalar: the gaps on the first line,
whether this line is broken, and how many more line breaks there are. -/
structure Spacing where
  gaps : List Char
  broken : Bool
  more : Nat

/-- No spacing. -/
def Spacing.none : Spacing := ⟨[], false, 0⟩

/-- One more line break, given whether a line was broken before it. -/
def Spacing.addBreak (s : Spacing) (again : Bool) : Spacing :=
  if again then { s with more := s.more + 1 } else { s with gaps := [], broken := true }

/-- What spacing stands for that goes over several lines: a single break is a space,
and of several the first one is dropped. -/
def Spacing.folded (s : Spacing) : List Char :=
  if s.broken && s.more == 0 then [' '] else List.replicate s.more '\n'

/-! ## Plain scalars -/

/-- Whether a plain scalar may go on with the character in front of the text. -/
def goesOnPlain (flow : Bool) (x : Char) (rest : List Char) : Bool :=
  if x == ':' then !(atSpacing rest || (flow && atFlowMark rest))
  else !(flow && Yaml.isFlowMark x)

/-- A word of a plain scalar. -/
def plainWord (flow : Bool) : List Char → List Char
  | [] => []
  | x :: rest =>
    if isSpacing x || !goesOnPlain flow x rest then [] else x :: plainWord flow rest

/-- Reads spacing in a plain scalar. A tab in front of the indentation may only stand
on a line without content. -/
def readPlainSpacing (indent : Int) : Nat → Cursor → Spacing → Option (Spacing × Cursor)
  | 0, c, s => some (s, c)
  | fuel + 1, c, s =>
    match c.rest with
    | [] => some (s, c)
    | x :: _ =>
      if isBreak x then readPlainSpacing indent fuel c.skipBreak (s.addBreak c.indenting)
      else if !Yaml.isGap x then some (s, c)
      else if !c.indenting then
        readPlainSpacing indent fuel (c.skipGaps 1) { s with gaps := s.gaps ++ [x] }
      else if x == '\t' && c.column < indent then
        match c.skipGap true with
        | some (_, c) => if atLineEnd c.rest then readPlainSpacing indent fuel c s else none
        | none => none
      else readPlainSpacing indent fuel (c.skipGaps 1) s

/-- Reads the words of a plain scalar, with the spacing in front of the next one. A
flow collection has no entry that is a hyphen alone. -/
def readPlain (flow : Bool) (indent : Int) :
    Nat → Cursor → List Char → Spacing → Option (List Char × Cursor)
  | 0, _, _, _ => none
  | fuel + 1, c, text, spacing =>
    if c.atDocumentMark || c.rest.head? == some '#' then some (text, c)
    else if flow && c.rest.head? == some '-' && atFlowMark (c.rest.drop 1) then none
    else
      let word := plainWord flow c.rest
      let between := if c.indenting then spacing.folded else spacing.gaps
      let (text, spacing, c) :=
        if word.isEmpty then (text, spacing, c)
        else (text ++ between ++ word, Spacing.none, c.skip word.length)
      match c.rest with
      | [] => some (text, c)
      | x :: _ =>
        if !isSpacing x then some (text, c)
        else
          match readPlainSpacing indent c.rest.length c spacing with
          | none => none
          | some (spacing, c) =>
            if !flow && c.column < indent then some (text, c)
            else readPlain flow indent fuel c text spacing

/-! ## Quoted scalars -/

/-- The character of an escape, and how many characters it takes after the
backslash. -/
def readEscape (cs : List Char) : Option (Char × Nat) :=
  match cs with
  | [] => none
  | e :: digits =>
    match Yaml.shortEscape? e, Yaml.escapeLength? e with
    | some c, _ => some (c, 1)
    | none, some n => do
      let value ← parseDigits? 16 (digits.take n)
      if digits.length < n || (0xD800 ≤ value && value ≤ 0xDFFF) || 0x10FFFF < value then none
      else return (Char.ofNat value, n + 1)
    | none, none => none

/-- A word of a quoted scalar, and whether an escaped line break ends it. -/
def readQuotedWord (double : Bool) : Nat → Cursor → Option (List Char × Bool × Cursor)
  | 0, c => some ([], false, c)
  | fuel + 1, c =>
    let put := fun (x : Char) (c : Cursor) =>
      (readQuotedWord double fuel c).map fun (word, escaped, c) => (x :: word, escaped, c)
    match c.rest with
    | [] => some ([], false, c)
    | x :: rest =>
      if isSpacing x then some ([], false, c)
      else if x == '\'' && !double then
        if rest.head? == some '\'' then put '\'' (c.skip 2) else some ([], false, c)
      else if x == '"' && double then some ([], false, c)
      else if x == '\\' && double then
        if rest.head?.any isBreak then some ([], true, (c.skip 1).skipBreak)
        else match readEscape rest with
          | some (y, n) => put y (c.skip (n + 1))
          | none => none
      else put x (c.skip 1)

/-- Reads spacing in a quoted scalar, given whether a line was broken before it. A tab
may not stand in front of the indentation. -/
def readQuotedSpacing (indent : Int) :
    Nat → Cursor → Bool → Spacing → Option (Bool × Spacing × Cursor)
  | 0, c, lines, s => some (lines, s, c)
  | fuel + 1, c, lines, s =>
    match c.rest with
    | [] => some (lines, s, c)
    | x :: _ =>
      if isBreak x then readQuotedSpacing indent fuel c.skipBreak true (s.addBreak lines)
      else if !Yaml.isGap x then some (lines, s, c)
      else if !lines then
        readQuotedSpacing indent fuel (c.skipGaps 1) lines { s with gaps := s.gaps ++ [x] }
      else if x == '\t' && c.column < indent then none
      else readQuotedSpacing indent fuel (c.skipGaps 1) lines s

/-- The text of a quoted scalar, after its opening quote. -/
def readQuoted (double : Bool) (indent : Int) :
    Nat → Cursor → List Char → Option (List Char × Cursor)
  | 0, _, _ => none
  | fuel + 1, c, text =>
    if c.atDocumentMark || c.rest.isEmpty || c.column < indent then none
    else
      match readQuotedWord double c.rest.length c with
      | none => none
      | some (word, escaped, c) =>
        if c.rest.head? == some (if double then '"' else '\'') then some (text ++ word, c.skip 1)
        else
          match readQuotedSpacing indent c.rest.length c escaped Spacing.none with
          | none => none
          | some (lines, spacing, c) =>
            let between := if lines then spacing.folded else spacing.gaps
            readQuoted double indent fuel c (text ++ word ++ between)

/-- Whether a quoted scalar may end in front of the text. As a key outside flow
collections it has to lie on one line. -/
def endsQuoted (flow oneLine : Bool) : List Char → Bool
  | [] => true
  | x :: _ =>
    isBreak x || (x == ':' && (flow || oneLine)) ||
      (flow && (x == ',' || x == ']' || x.toNat == 0x7D))

/-! ## Block scalars -/

/-- The marks after the indicator of a block scalar: how its end is treated, and how
far it is indented. Either may come first; an indentation of zero is an error. -/
def readBlockHeader (c : Cursor) : Option (Yaml.Chomping × Option Nat × Cursor) :=
  let chomping := fun (c : Cursor) =>
    match c.rest with
    | '+' :: _ => (some Yaml.Chomping.keep, c.skip 1)
    | '-' :: _ => (some Yaml.Chomping.strip, c.skip 1)
    | _ => (none, c)
  let digit := fun (c : Cursor) =>
    match c.rest.head?.bind (digitIn? 10) with
    | some 0 => none
    | some n => some (some n, c.skip 1)
    | none => some (none, c)
  match chomping c with
  | (some mark, c) => (digit c).map fun (increment, c) => (mark, increment, c)
  | (none, c) =>
    match digit c with
    | none => none
    | some (none, c) => some (.clip, none, c)
    | some (some n, c) =>
      let (mark, c) := chomping c
      some (mark.getD .clip, some n, c)

/-- Skips empty lines of a block scalar and the indentation of the next line, up to a
column if it is known. Gives the number of lines and the deepest column met. -/
def skipIndents (indent : Option Nat) : Nat → Cursor → Nat → Nat → Nat × Nat × Cursor
  | 0, c, lines, deepest => (lines, deepest, c)
  | fuel + 1, c, lines, deepest =>
    let room := match indent with
      | some n => n - c.column
      | none => c.rest.length
    let c := c.skipGaps ((c.rest.take room).takeWhile (· == ' ')).length
    let deepest := max deepest c.column
    if c.rest.head?.any isBreak then skipIndents indent fuel c.skipBreak (lines + 1) deepest
    else (lines, deepest, c)

/-- How far the lines of a block scalar have been read: the text, whether the last line
is broken, how many empty lines follow, and whether the last line starts with a gap. -/
structure BlockLines where
  text : List Char
  broken : Bool
  empty : Nat
  afterGap : Bool

/-- The line breaks between two lines. A folded scalar joins lines that start with no
gap. -/
def BlockLines.between (b : BlockLines) (folded beforeGap : Bool) : List Char :=
  if folded && b.broken && !b.afterGap && !beforeGap then
    if b.empty == 0 then [' '] else List.replicate b.empty '\n'
  else List.replicate (b.empty + if b.broken then 1 else 0) '\n'

/-- Reads the lines of a block scalar at its indentation. -/
def readBlockLines (folded : Bool) (indent : Nat) :
    Nat → Cursor → BlockLines → BlockLines × Cursor
  | 0, c, b => (b, c)
  | fuel + 1, c, b =>
    if c.column != indent || c.rest.isEmpty || (indent == 0 && c.atMark '.') then (b, c)
    else
      let gap := c.rest.head?.any Yaml.isGap
      let line := c.rest.takeWhile (!isBreak ·)
      let text := b.text ++ b.between folded gap ++ line
      let c := c.skipGaps line.length
      if c.rest.isEmpty then (⟨text, false, 0, gap⟩, c)
      else
        let next := c.skipBreak
        let (empty, _, next) := skipIndents (some indent) next.rest.length next 0 0
        readBlockLines folded indent fuel next ⟨text, true, empty, gap⟩

/-- The text of a block scalar with its end treated as the header asks. A last line that
ends with the text has its break added. -/
def BlockLines.finish (b : BlockLines) (chomping : Yaml.Chomping) (unended : Bool) : List Char :=
  let closing := (if b.broken then ['\n'] else []) ++ if unended then ['\n'] else []
  match chomping with
  | .strip => b.text
  | .clip => b.text ++ closing
  | .keep => b.text ++ closing ++ List.replicate b.empty '\n'

/-- The text of a block scalar without any line, given whether its header is broken off
and the number of empty lines. -/
def emptyBlock (chomping : Yaml.Chomping) (oneLine broken : Bool) (empty : Nat) : List Char :=
  let own := if broken then ['\n'] else []
  match chomping with
  | .strip => []
  | .clip => if oneLine then [] else own
  | .keep => if oneLine then [] else if empty == 0 then own else List.replicate empty '\n'

/-- The text of a block scalar, after its indicator, inside a block at the indentation
given. -/
def readBlock (folded : Bool) (parent : Int) (c : Cursor) : Option (List Char × Cursor) := do
  let (chomping, increment, header) ← readBlockHeader c
  let (_, header) ← header.skipGap true
  if !atLineEnd header.rest then none
  let broken := !header.rest.isEmpty
  let c := header.skipBreak
  if c.rest.head? == some '\t' then none
  let known := increment.map fun n => (max parent 0).toNat + n
  let (empty, deepest, c) := skipIndents known c.rest.length c 0 0
  let least := if 0 < parent then 1 else 0
  let indent := known.getD (max (max deepest (parent + 1).toNat) least)
  if c.rest.isEmpty then
    return (emptyBlock chomping (c.line == header.line) broken empty, c)
  else if c.column < indent && parent < c.column then none
  else
    let (lines, c) := readBlockLines folded indent (c.rest.length + 1) c ⟨[], false, empty, false⟩
    return (lines.finish chomping (c.rest.isEmpty && max indent 1 ≤ c.column), c)

end ExtensionHost.LayerYaml
