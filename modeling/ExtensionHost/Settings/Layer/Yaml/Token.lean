import ExtensionHost.Settings.Layer.Yaml.Scalar
import ExtensionHost.Yaml.Token

/-!
# Tokens of a layer

The text of a layer as a list of tokens. Blocks lie at columns; inside a block an
entry may begin with a margin of one column, which has no token of its own. The place
of a possible key is kept until its colon is met, and the tokens that open the key are
put in there afterwards.

A pair in brackets is a mapping of its own. The reader has one note of an open pair
and one of an open mapping for the whole text, so a pair around another one is closed
with the inner one and never again.
-/

namespace ExtensionHost.LayerYaml

open Yaml (Token PendingKey)

/-! ## Progress -/

/-- A column that the lines of a block may not start in front of. A block has a token
at its end, a margin has none. -/
structure Indent where
  column : Int
  isBlock : Bool
  deriving DecidableEq, Repr

/-- How far a text has been read: the tokens so far, the last one first, the indents,
the innermost first, the pending keys of the innermost flow collection and of those
around it, whether a pair in brackets is open, whether a mapping in braces was met, and
the place where a colon may follow a key at once. -/
structure Progress where
  cursor : Cursor
  tokens : List Token
  keyAllowed : Bool
  pending : Option PendingKey
  outerPending : List (Option PendingKey)
  indents : List Indent
  pairOpen : Bool
  mappingMet : Bool
  adjacentAt : Nat

/-- Nothing has been read. -/
def Progress.start (cs : List Char) : Progress :=
  ⟨.start cs, [], true, none, [], [], false, false, 0⟩

/-- Whether a flow collection is open. -/
def Progress.inFlow (s : Progress) : Bool :=
  !s.outerPending.isEmpty

/-- The innermost column. -/
def Progress.indent (s : Progress) : Int :=
  match s.indents with
  | innermost :: _ => innermost.column
  | [] => -1

/-- Whether the innermost indent is one of a block. -/
def Progress.atBlock (s : Progress) : Bool :=
  s.indents.head?.any (·.isBlock)

/-- One more token. -/
def Progress.emit (s : Progress) (t : Token) : Progress :=
  { s with tokens := t :: s.tokens }

/-- A token put in behind a number of tokens. -/
def Progress.insertAfter (s : Progress) (before : Nat) (t : Token) : Progress :=
  let later := s.tokens.length - before
  { s with tokens := s.tokens.take later ++ t :: s.tokens.drop later }

/-! ## Indents -/

/-- Opens a block at a column behind a number of tokens, unless one is open there. A
margin that the block does not lie in front of gives way. -/
def Progress.openBlock (s : Progress) (column before : Nat) (t : Token) : Progress :=
  if s.inFlow then s
  else
    let s := if s.indent ≤ column && !s.indents.isEmpty && !s.atBlock then
      { s with indents := s.indents.drop 1 } else s
    if s.indent < column then
      { s.insertAfter before t with indents := ⟨column, true⟩ :: s.indents }
    else s

/-- Leaves the indents beyond a column, with a token for every block. -/
def Progress.leave (s : Progress) (column : Int) : Progress :=
  if s.inFlow then s
  else
    let left := s.indents.takeWhile (column < ·.column)
    { s with
      tokens := (left.filter (·.isBlock)).map (fun _ => Token.blockEnd) ++ s.tokens
      indents := s.indents.drop left.length }

/-- Adds a margin to the innermost block. -/
def Progress.addMargin (s : Progress) : Progress :=
  if !s.inFlow && s.atBlock then { s with indents := ⟨s.indent + 1, false⟩ :: s.indents } else s

/-- Leaves the innermost margins. -/
def Progress.dropMargins (s : Progress) : Progress :=
  { s with indents := s.indents.dropWhile (!·.isBlock) }

/-! ## Pending keys -/

/-- Gives up the pending key, which is an error if it has to be one. -/
def Progress.dropPending (s : Progress) : Option Progress :=
  if s.pending.any (·.required) then none else some { s with pending := none }

/-- Takes note that a key may start here. At the column of a block nothing but a key may
stand. -/
def Progress.notePending (s : Progress) : Progress :=
  if s.keyAllowed then
    { s with pending := some {
        before := s.tokens.length
        line := s.cursor.line
        index := s.cursor.index
        column := s.cursor.column
        required := !s.inFlow && s.indent == s.cursor.column && s.atBlock } }
  else s

/-- Whether a key that started earlier can no longer be one. -/
def isStale (c : Cursor) (key : PendingKey) : Bool :=
  key.line < c.line || key.index + 1024 < c.index

/-- Gives up the keys that can no longer be keys. In flow collections a key may go over
several lines. -/
def Progress.dropStale (s : Progress) : Option Progress :=
  if s.inFlow || !(s.pending.any (isStale s.cursor)) then some s else s.dropPending

/-! ## Spacing between tokens -/

/-- Past a line break. In a block a new line may start with a key. -/
def Progress.skipBreak (s : Progress) : Progress :=
  { s with cursor := s.cursor.skipBreak, keyAllowed := s.keyAllowed || !s.inFlow }

/-- Skips gaps, comments and line breaks. A tab in front of the indentation of a block
may only stand on a line without content. -/
def Progress.skipSpacing : Nat → Progress → Option Progress
  | 0, s => some s
  | fuel + 1, s =>
    let c := s.cursor
    match c.rest with
    | [] => some s
    | x :: _ =>
      if x == '\t' && !s.indents.isEmpty && c.indenting && c.column < s.indent then
        match c.skipGap true with
        | some (_, c) =>
          if atLineEnd c.rest then Progress.skipSpacing fuel { s with cursor := c } else none
        | none => none
      else if Yaml.isGap x then Progress.skipSpacing fuel { s with cursor := c.skipGaps 1 }
      else if isBreak x then Progress.skipSpacing fuel s.skipBreak
      else if x == '#' then Progress.skipSpacing fuel { s with cursor := c.skipLine }
      else some s

/-- Skips spaces, comments and line breaks. -/
def Progress.skipLines : Nat → Progress → Progress
  | 0, s => s
  | fuel + 1, s =>
    match s.cursor.rest with
    | [] => s
    | x :: _ =>
      if x == ' ' then Progress.skipLines fuel { s with cursor := s.cursor.skipGaps 1 }
      else if isBreak x then Progress.skipLines fuel s.skipBreak
      else if x == '#' then Progress.skipLines fuel { s with cursor := s.cursor.skipLine }
      else s

/-- Past the gaps and the comment up to the end of the line, as far as there is nothing
else. -/
def Progress.skipGap (s : Progress) : Option Progress :=
  (s.cursor.skipGap true).map fun (_, c) => { s with cursor := c }

/-! ## Names and tags -/

/-- A letter, a digit, a hyphen or an underscore. -/
def isWordChar (c : Char) : Bool :=
  c.isAlphanum || c == '_' || c == '-'

/-- A character of a tag between angle brackets. -/
def isTagTextChar (c : Char) : Bool :=
  isWordChar c || "#;/?:@&=+$,.!~*'()[]%".toList.contains c

/-- A character of the tail of a tag. -/
def isTagTailChar (c : Char) : Bool :=
  isTagTextChar c && !Yaml.isFlowMark c && c != '!'

/-- A character of the name of an anchor. -/
def isAnchorChar (c : Char) : Bool :=
  !isSpacing c && !Yaml.isFlowMark c && !Yaml.isEncodingMark c

/-- The name behind an ampersand or an asterisk. -/
def readName (token : String → Token) (c : Cursor) : Option (Token × Cursor) :=
  let (name, c) := (c.skip 1).takeWhile isAnchorChar
  if name.isEmpty then none else some (token (String.ofList name), c)

/-- The number of bytes that an escaped character takes, told by the first one. -/
def escapedBytes? (first : Nat) : Option Nat :=
  if first < 0x80 then some 1
  else if first < 0xC0 then none
  else if first < 0xE0 then some 2
  else if first < 0xF0 then some 3
  else if first < 0xF8 then some 4
  else none

/-- The bytes of a number of escapes of the form `%xx`, put together as one number. -/
def readEscapedNumber : Nat → Nat → Cursor → Option (Nat × Cursor)
  | 0, number, c => some (number, c)
  | count + 1, number, c =>
    match c.rest with
    | '%' :: a :: b :: _ => do
      let byte ← parseDigits? 16 [a, b]
      if 0x80 ≤ byte && byte < 0xC0 then
        readEscapedNumber count (number * 256 + byte) (c.skip 3)
      else none
    | _ => none

/-- A character written by its bytes. Its number is that of the bytes together. -/
def readEscapedChar (c : Cursor) : Option (Char × Cursor) :=
  match c.rest with
  | '%' :: a :: b :: _ => do
    let first ← parseDigits? 16 [a, b]
    let count ← escapedBytes? first
    let (number, c) ← readEscapedNumber (count - 1) first (c.skip 3)
    if number.isValidChar then return (Char.ofNat number, c) else none
  | _ => none

/-- The characters of a tag that satisfy a condition. -/
def readTagText (p : Char → Bool) : Nat → Cursor → Option (List Char × Cursor)
  | 0, c => some ([], c)
  | fuel + 1, c =>
    match c.rest with
    | [] => some ([], c)
    | x :: _ =>
      if !p x then some ([], c)
      else do
        let (y, c) ← if x == '%' then readEscapedChar c else some (x, c.skip 1)
        let (text, c) ← readTagText p fuel c
        return (y :: text, c)

/-- A tag handle: exclamation marks around a name, or a single one in front of it. -/
def readTagHandle (c : Cursor) : Option (List Char × Cursor) :=
  if c.rest.head? != some '!' then none
  else
    let (name, c) := (c.skip 1).takeWhile isWordChar
    if c.rest.head? == some '!' then some ('!' :: name ++ ['!'], c.skip 1)
    else some ('!' :: name, c)

/-- A tag without what has to follow it. -/
def readTagParts (c : Cursor) : Option (Token × Cursor) :=
  match c.rest with
  | '!' :: '<' :: _ => do
    let (text, c) ← readTagText isTagTextChar c.rest.length (c.skip 2)
    if c.rest.head? == some '>' then return (.tag "" (String.ofList text), c.skip 1) else none
  | _ => do
    let (handle, c) ← readTagHandle c
    let (tail, c) ← readTagText isTagTailChar c.rest.length c
    let suffix := handle.drop 1 ++ tail
    if 1 < handle.length && handle.getLast? == some '!' then
      if tail.isEmpty then none
      else return (.tag (String.ofList handle) (String.ofList tail), c)
    else if suffix.isEmpty then return (.tag "" "!", c)
    else return (.tag "!" (String.ofList suffix), c)

/-- A tag. -/
def readTag (flow : Bool) (c : Cursor) : Option (Token × Cursor) := do
  let (t, c) ← readTagParts c
  if atSpacing c.rest || (flow && atFlowMark c.rest) then return (t, c) else none

/-! ## Directives -/

/-- The first character of what a tag handle means. -/
def readMeaningStart (c : Cursor) : Option (Char × Cursor) :=
  match c.rest with
  | [] => none
  | x :: _ =>
    if x == '%' then readEscapedChar c
    else if x == '!' || isTagTailChar x then some (x, c.skip 1) else none

/-- A handle and what it means. -/
def readHandleDirective (c : Cursor) : Option (Token × Cursor) := do
  let (handle, c) ← readTagHandle c.dropGaps
  if 1 < handle.length && handle.getLast? != some '!' then none
  else
    let (first, c) ← readMeaningStart c.dropGaps
    let (meaning, c) ← readTagText isTagTextChar c.rest.length c
    if atSpacing c.rest then
      return (.tagHandle (String.ofList handle) (String.ofList (first :: meaning)), c)
    else none

/-- A number of at most nine digits. -/
def readVersionNumber (c : Cursor) : Option (Nat × Cursor) :=
  let (digits, c) := c.takeWhile isDigit
  if digits.isEmpty || 9 < digits.length then none
  else some (numberOfDigits 10 digits, c)

/-- A version, of which every one will do. -/
def readVersionDirective (c : Cursor) : Option (Token × Cursor) := do
  let (major, c) ← readVersionNumber c.dropGaps
  if c.rest.head? != some '.' then none
  else
    let (minor, c) ← readVersionNumber (c.skip 1)
    return (.version major minor, c)

/-- A directive and the rest of its line, which may hold a comment only. One of another
name says nothing. -/
def readDirective (c : Cursor) : Option (Token × Cursor) := do
  let (name, c) := (c.skip 1).takeWhile isWordChar
  if name.isEmpty || !atSpacing c.rest then none
  else
    let (t, c) ← match String.ofList name with
      | "YAML" => readVersionDirective c
      | "TAG" => readHandleDirective c
      | _ => some (.tagHandle "" "", c.skipLine)
    let (_, c) ← c.skipGap true
    if atLineEnd c.rest then return (t, c.skipBreak) else none

/-! ## Steps -/

/-- A mark of one character, without its token. -/
def Progress.skipMark (s : Progress) (keyAllowed : Bool) : Progress :=
  { s with cursor := s.cursor.skip 1, keyAllowed := keyAllowed }

/-- Closes the pair in brackets that is open. -/
def Progress.closePair (s : Progress) : Progress :=
  if s.pairOpen then { s.emit .flowMappingEnd with pairOpen := false, mappingMet := false } else s

/-- How many flow collections may lie in one another. -/
def flowLimit : Nat := 255

/-- Opens a flow collection, which may itself be a key. -/
def Progress.openFlow (s : Progress) (t : Token) : Option Progress :=
  let s := s.notePending.addMargin
  if flowLimit ≤ s.outerPending.length then none
  else
    let s := { s.skipMark true with
      pending := none
      outerPending := s.pending :: s.outerPending
      mappingMet := s.mappingMet || t == Token.flowMappingStart }
    s.skipGap.map fun s => s.emit t

/-- Closes a flow collection. In another one it may be a key with its colon at once. -/
def Progress.closeFlow (s : Progress) (t : Token) : Option Progress := do
  let s ← s.dropPending
  let s := match s.outerPending with
    | outer :: rest => { s with pending := outer, outerPending := rest }
    | [] => s
  let s ← (s.closePair.skipMark false).skipGap
  return { s.emit t with adjacentAt := if s.inFlow then s.cursor.index else s.adjacentAt }

/-- A comma. -/
def Progress.flowEntry (s : Progress) : Option Progress := do
  let s ← s.dropPending
  let s ← (s.closePair.skipMark true).skipGap
  return s.emit .flowEntry

/-- A hyphen in front of an entry. A tab may not stand between two of them. -/
def Progress.blockEntry (s : Progress) : Option Progress :=
  if s.inFlow || !s.keyAllowed then none
  else do
    let s := (s.openBlock s.cursor.column s.tokens.length .blockSequenceStart).skipMark true
    let (gap, c) ← s.cursor.skipGap true
    if gap.tab && c.rest.head? == some '-' && atSpacing (c.rest.drop 1) then none
    else
      let s := { s with cursor := c }
      let s := if c.rest.head?.any isBreak || atFlowMark c.rest then s.addMargin else s
      return (← s.dropPending).emit .blockEntry

/-- A question mark in front of a key, with the spacing that has to follow it. -/
def Progress.explicitKey (s : Progress) : Option Progress :=
  if !s.inFlow && !s.keyAllowed then none
  else do
    let s := if s.inFlow then { s with mappingMet := true }
      else s.openBlock s.cursor.column s.tokens.length .blockMappingStart
    let s := (← s.dropPending).skipMark (!s.inFlow)
    let next := s.skipLines s.cursor.rest.length
    let spaced := s.cursor.rest.head?.any fun x => x == ' ' || isBreak x
    if spaced && next.cursor.rest.head? != some '\t' then return next.emit .key else none

/-- Past a colon. A tab behind it does not set off a hyphen or a word. -/
def skipColon (c : Cursor) : Option Cursor :=
  let c := c.skip 1
  if c.rest.head? != some '\t' then some c
  else do
    let (gap, c) ← c.skipGap true
    if !gap.space && c.rest.head?.any isWordChar then none else return c

/-- A colon. With a pending key the tokens of the key are put in front of it; a pair in
brackets has its key on the line of the colon. -/
def Progress.colon (s : Progress) : Option Progress := do
  let pair := s.inFlow && !s.mappingMet
  let line := s.cursor.line
  let column := s.cursor.column
  let s := { s with pairOpen := pair, cursor := ← skipColon s.cursor }
  match s.pending with
  | some key =>
    if pair && key.line < line then none
    else
      let s := s.insertAfter key.before .key
      let s := if pair then s.insertAfter key.before .flowMappingStart else s
      let s := (s.openBlock key.column key.before .blockMappingStart).addMargin
      return { s.emit .value with pending := none, keyAllowed := false }
  | none =>
    let s := if pair then s.emit .flowMappingStart else s
    if s.inFlow then return { s.emit .value with keyAllowed := false }
    else if s.keyAllowed then
      let s := (s.openBlock column s.tokens.length .blockMappingStart).addMargin
      return { s.emit .value with keyAllowed := true }
    else none

/-- A token of some length that may start a key. -/
def Progress.item (s : Progress) (read : Cursor → Option (Token × Cursor)) : Option Progress := do
  let s := s.notePending
  let (t, c) ← read s.cursor
  return { s.emit t with cursor := c, keyAllowed := false }

/-- A plain scalar. One that ends in front of a line may be followed by a key. -/
def Progress.plainScalar (s : Progress) : Option Progress := do
  let s := s.notePending.dropMargins
  let indent := s.indent + 1
  if s.inFlow && s.cursor.column < indent then none
  else
    let (text, c) ←
      readPlain s.inFlow indent (s.cursor.rest.length + 1) s.cursor [] Spacing.none
    return { s.emit (.scalar .plain (String.ofList text)) with
      cursor := c, keyAllowed := c.indenting }

/-- A quoted scalar, with the spacing behind it. -/
def Progress.quotedScalar (s : Progress) (double : Bool) : Option Progress := do
  let s := { s.notePending with keyAllowed := false }
  let line := s.cursor.line
  let (text, c) ← readQuoted double s.indent (s.cursor.rest.length + 1) (s.cursor.skip 1) []
  let (_, c) ← c.skipGap true
  if !endsQuoted s.inFlow (c.line == line) c.rest then none
  else
    let s ← Progress.skipSpacing c.rest.length { s with cursor := c }
    let style := if double then Yaml.ScalarStyle.doubleQuoted else .singleQuoted
    return { s.emit (.scalar style (String.ofList text)) with adjacentAt := s.cursor.index }

/-- A block scalar. -/
def Progress.blockScalar (s : Progress) (folded : Bool) : Option Progress := do
  let s := s.notePending.dropMargins
  let (text, c) ← readBlock folded s.indent (s.cursor.skip 1)
  return { s.emit (.scalar (if folded then .folded else .literal) (String.ofList text)) with
    cursor := c, keyAllowed := true }

/-- A line that belongs to no document: a directive, or a mark between documents. -/
def Progress.outerLine (s : Progress) (read : Cursor → Option (Token × Cursor)) :
    Option Progress := do
  let s ← (s.leave (-1)).dropPending
  let (t, c) ← read s.cursor
  return { s.emit t with cursor := c, keyAllowed := false }

/-- The mark at the end of a document, with nothing but a comment on its line. -/
def readDocumentEnd (c : Cursor) : Option (Token × Cursor) := do
  let (_, c) ← (c.skip 3).skipGap true
  if atLineEnd c.rest then return (.documentEnd, c) else none

/-- One token, with the tokens that it brings along. The cursor stands on its first
character, and not in front of the indentation. -/
def Progress.step (s : Progress) : Option Progress :=
  match s.cursor.rest with
  | [] => none
  | x :: rest =>
    let n := x.toNat
    let colonHere := atSpacing rest ||
      (s.inFlow && (atFlowMark rest || s.cursor.index == s.adjacentAt))
    if s.cursor.column == 0 && x == '%' then s.outerLine readDirective
    else if s.cursor.atMark '-' then s.outerLine fun c => some (.documentStart, c.skip 3)
    else if s.cursor.atMark '.' then s.outerLine readDocumentEnd
    else if s.cursor.column < s.indent then none
    else if x == '[' then s.openFlow .flowSequenceStart
    else if n == 0x7B then s.openFlow .flowMappingStart
    else if x == ']' then s.closeFlow .flowSequenceEnd
    else if n == 0x7D then s.closeFlow .flowMappingEnd
    else if x == ',' then s.flowEntry
    else if x == '-' && atSpacing rest then s.blockEntry
    else if x == '?' && atSpacing rest then s.explicitKey
    else if x == ':' && colonHere then s.colon
    else if x == '*' then s.item (readName .alias)
    else if x == '&' then s.item (readName .anchor)
    else if x == '!' then s.item (readTag s.inFlow)
    else if x == '|' && !s.inFlow then s.blockScalar false
    else if x == '>' && !s.inFlow then s.blockScalar true
    else if x == '\'' then s.quotedScalar false
    else if x == '"' then s.quotedScalar true
    else if x == '%' || x == '@' || n == 0x60 then none
    else s.plainScalar

/-- The end of the text. No key may be missing, of whatever collection. -/
def Progress.finish (s : Progress) : Option Progress :=
  if (s.pending :: s.outerPending).any (·.any (·.required)) then none else some (s.leave (-1))

/-- Reads tokens to the end of the text. -/
def Progress.run : Nat → Progress → Option Progress
  | 0, _ => none
  | fuel + 1, s => do
    let s ← (← s.skipSpacing (s.cursor.rest.length + 1)).dropStale
    let s := s.leave s.cursor.column
    if s.cursor.rest.isEmpty then s.finish else (← s.step).run fuel

/-- The tokens of a text. -/
def tokens? (s : String) : Option (List Token) :=
  let cs := s.toList
  ((Progress.start cs).run (cs.length + 1)).map (·.tokens.reverse)

end ExtensionHost.LayerYaml
