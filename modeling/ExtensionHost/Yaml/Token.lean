import ExtensionHost.Yaml.Scalar

/-!
# Tokens

A YAML text as a list of tokens. Indentation becomes tokens that open and close
blocks. A mapping key is only known as one when its colon is met, so the place
of a possible key is kept, and the tokens that open the key are put in there
afterwards.
-/

namespace ExtensionHost.Yaml

/-! ## Tokens -/

/-- A piece of a YAML text that stands for one thing. -/
inductive Token where
  | version (major minor : Nat)
  | tagHandle (handle meaning : String)
  | documentStart
  | documentEnd
  | blockSequenceStart
  | blockMappingStart
  | blockEnd
  | flowSequenceStart
  | flowSequenceEnd
  | flowMappingStart
  | flowMappingEnd
  | blockEntry
  | flowEntry
  | key
  | value
  | alias (name : String)
  | anchor (name : String)
  | tag (handle suffix : String)
  | scalar (style : ScalarStyle) (text : String)
  deriving DecidableEq, Repr

/-- A place where a key may have started: the number of tokens in front of it,
and whether it has to be a key. -/
structure PendingKey where
  before : Nat
  line : Nat
  index : Nat
  column : Nat
  required : Bool
  deriving Repr

/-- How far a text has been read: the tokens so far, the last one first, the
columns of the open blocks, the innermost first, and the pending keys of the
open flow collections around the innermost one. -/
structure Progress where
  cursor : Cursor
  tokens : List Token
  keyAllowed : Bool
  pending : Option PendingKey
  outerPending : List (Option PendingKey)
  indents : List Nat

/-- Nothing has been read. -/
def Progress.start (cs : List Char) : Progress :=
  ⟨.start cs, [], true, none, [], []⟩

/-- Whether a flow collection is open. -/
def Progress.inFlow (s : Progress) : Bool :=
  !s.outerPending.isEmpty

/-- One more token. -/
def Progress.emit (s : Progress) (t : Token) : Progress :=
  { s with tokens := t :: s.tokens }

/-- A token put in behind a number of tokens. -/
def Progress.insertAfter (s : Progress) (before : Nat) (t : Token) : Progress :=
  let later := s.tokens.length - before
  { s with tokens := s.tokens.take later ++ t :: s.tokens.drop later }

/-! ## Blocks -/

/-- Whether a block at the column would lie inside the innermost one. -/
def opensBlock (indents : List Nat) (column : Nat) : Bool :=
  match indents with
  | [] => true
  | innermost :: _ => innermost < column

/-- Opens a block at a column, unless one is open there, behind a number of
tokens. Flow collections have no blocks. -/
def Progress.openBlock (s : Progress) (column before : Nat) (t : Token) : Progress :=
  if !s.inFlow && opensBlock s.indents column then
    { s.insertAfter before t with indents := column :: s.indents }
  else s

/-- How many of the open blocks lie deeper than the column. -/
def deeperBlocks (indents : List Nat) (column : Nat) : List Nat :=
  indents.takeWhile (column < ·)

/-- Closes blocks. -/
def Progress.closeBlocks (s : Progress) (closed : List Nat) : Progress :=
  if s.inFlow then s
  else
    { s with
      tokens := closed.map (fun _ => Token.blockEnd) ++ s.tokens
      indents := s.indents.drop closed.length }

/-- Closes every block. -/
def Progress.closeAll (s : Progress) : Progress :=
  s.closeBlocks s.indents

/-! ## Pending keys -/

/-- Gives up the pending key, which is an error if it has to be one. -/
def Progress.dropPending (s : Progress) : Option Progress :=
  if s.pending.any (·.required) then none else some { s with pending := none }

/-- Takes note that a key may start here. At the column of the innermost block
nothing but a key may stand. -/
def Progress.notePending (s : Progress) : Option Progress :=
  if s.keyAllowed then
    s.dropPending.map fun s =>
      { s with pending := some {
          before := s.tokens.length
          line := s.cursor.line
          index := s.cursor.index
          column := s.cursor.column
          required := !s.inFlow && s.indents.head? == some s.cursor.column } }
  else some s

/-- Whether a key that started earlier can no longer be one: keys lie on one line
and take up few bytes. -/
def PendingKey.isStale (key : PendingKey) (c : Cursor) : Bool :=
  key.line < c.line || key.index + 1024 < c.index

/-- Gives up the keys that can no longer be keys. -/
def Progress.dropStale (s : Progress) : Option Progress :=
  let stale := fun (key : Option PendingKey) => key.any (·.isStale s.cursor)
  let keep := fun (key : Option PendingKey) => if stale key then none else key
  if (s.pending :: s.outerPending).any fun key => stale key && key.any (·.required) then none
  else some { s with pending := keep s.pending, outerPending := s.outerPending.map keep }

/-! ## Names and tags -/

/-- A character of a name. -/
def isNameChar (c : Char) : Bool :=
  c.isAlphanum || c == '_' || c == '-'

/-- A name of at least one character. -/
def readName (c : Cursor) : Option (String × Cursor) :=
  let (name, c) := c.takeWhile isNameChar
  if name.isEmpty then none else some (String.ofList name, c)

/-- The name of an anchor or an alias, and what may follow it. -/
def readAnchorName (c : Cursor) : Option (String × Cursor) := do
  let (name, c) ← readName c
  match c.rest with
  | [] => some (name, c)
  | x :: _ =>
    if isSpacing x || "?:,]%@".toList.contains x || x.toNat == 0x60 || x.toNat == 0x7D then
      some (name, c)
    else none

/-- A tag handle: exclamation marks around a name, or a single one in front of
it. -/
def readTagHandle (c : Cursor) : Option (List Char × Cursor) :=
  match c.rest with
  | '!' :: _ =>
    let (name, c) := (c.skip 1).takeWhile isNameChar
    match c.rest with
    | '!' :: _ => some ('!' :: name ++ ['!'], c.skip 1)
    | _ => some ('!' :: name, c)
  | _ => none

/-- How many bytes a character takes that starts with the byte. -/
def encodedLength? (first : Nat) : Option Nat :=
  if first < 0x80 then some 1
  else if 0xC0 ≤ first && first < 0xE0 then some 2
  else if 0xE0 ≤ first && first < 0xF0 then some 3
  else if 0xF0 ≤ first && first < 0xF8 then some 4
  else none

/-- The bytes of a number of escapes of the form `%xx`. -/
def readEscapedBytes : Nat → List Char → Option (List UInt8 × List Char)
  | 0, cs => some ([], cs)
  | n + 1, '%' :: a :: b :: cs => do
    let byte ← parseDigits? 16 [a, b]
    let (bytes, cs) ← readEscapedBytes n cs
    return (UInt8.ofNat byte :: bytes, cs)
  | _ + 1, _ => none

/-- A character written as escaped bytes. -/
def readEscapedChar (cs : List Char) : Option (List Char × Nat) :=
  match cs with
  | '%' :: a :: b :: _ => do
    let n ← encodedLength? (← parseDigits? 16 [a, b])
    let (bytes, _) ← readEscapedBytes n cs
    let s ← String.fromUTF8? ⟨bytes.toArray⟩
    return (s.toList, 3 * n)
  | _ => none

/-- The characters of the tail of a tag. A tag between angle brackets may hold
more of them. -/
def readTagTail (verbatim : Bool) : Nat → Cursor → Option (List Char × Cursor)
  | 0, c => some ([], c)
  | fuel + 1, c =>
    match c.rest with
    | [] => some ([], c)
    | x :: _ =>
      if x == '%' then do
        let (escaped, n) ← readEscapedChar c.rest
        let (tail, c) ← readTagTail verbatim fuel (c.skip n)
        return (escaped ++ tail, c)
      else if isNameChar x || ";/?:@&=+$.!~*'()".toList.contains x ||
          (verbatim && (x == ',' || x == '[' || x == ']')) then
        (readTagTail verbatim fuel (c.skip 1)).map fun (tail, c) => (x :: tail, c)
      else some ([], c)

/-- A tag. -/
def readTag (c : Cursor) : Option (Token × Cursor) :=
  match c.rest with
  | '!' :: '<' :: rest => do
    let (tail, c) ← readTagTail true rest.length (c.skip 2)
    if tail.isEmpty || c.rest.head? != some '>' then none
    else return (.tag "" (String.ofList tail), c.skip 1)
  | _ => do
    let (handle, c) ← readTagHandle c
    let (tail, c) ← readTagTail false c.rest.length c
    if 1 < handle.length && handle.getLast? == some '!' then
      if tail.isEmpty then none
      else return (.tag (String.ofList handle) (String.ofList tail), c)
    else
      let suffix := handle.drop 1 ++ tail
      if suffix.isEmpty then return (.tag "" "!", c)
      else return (.tag "!" (String.ofList suffix), c)

/-! ## Directives -/

/-- A number of at most nine digits. -/
def readVersionNumber (c : Cursor) : Option (Nat × Cursor) :=
  let (digits, c) := c.takeWhile isDigit
  if digits.isEmpty || 9 < digits.length then none
  else some (numberOfDigits 10 digits, c)

/-- What a directive says, after its percent sign. -/
def readDirectiveBody (c : Cursor) : Option (Token × Cursor) := do
  let (name, c) ← readName c
  if !atSpacing c.rest then none
  else
    let (_, c) := c.takeWhile isGap
    if name == "YAML" then do
      let (major, c) ← readVersionNumber c
      if c.rest.head? != some '.' then none
      else
        let (minor, c) ← readVersionNumber (c.skip 1)
        return (.version major minor, c)
    else if name == "TAG" then do
      let (handle, c) ← readTagHandle c
      if 1 < handle.length && handle.getLast? != some '!' then none
      else if !(c.rest.head?.any isGap) then none
      else
        let (_, c) := c.takeWhile isGap
        let (meaning, c) ← readTagTail true c.rest.length c
        if meaning.isEmpty || !atSpacing c.rest then none
        else return (.tagHandle (String.ofList handle) (String.ofList meaning), c)
    else none

/-- A directive and the rest of its line, which may hold a comment only. -/
def readDirective (c : Cursor) : Option (Token × Cursor) := do
  let (t, c) ← readDirectiveBody (c.skip 1)
  let (_, c) := c.takeWhile isGap
  let c := if c.rest.head? == some '#' then (c.takeWhile (!isBreak ·)).2 else c
  match c.rest with
  | [] => return (t, c)
  | x :: _ => if isBreak x then return (t, c.takeBreak.2) else none

/-! ## Steps -/

/-- Skips gaps, comments and line breaks, and an encoding mark in front of them. In a
block a new line may start with a key; where a key may start, tabs do not count as
gaps. -/
def Progress.skipSpacing : Nat → Progress → Progress
  | 0, s => s
  | fuel + 1, s =>
    let gap := fun (x : Char) => x == ' ' || (x == '\t' && (s.inFlow || !s.keyAllowed))
    let c := (s.cursor.skipEncodingMark.takeWhile gap).2
    let c := if c.rest.head? == some '#' then (c.takeWhile (!isBreak ·)).2 else c
    match c.rest with
    | [] => { s with cursor := c }
    | x :: _ =>
      if isBreak x then
        Progress.skipSpacing fuel
          { s with cursor := c.takeBreak.2, keyAllowed := s.keyAllowed || !s.inFlow }
      else { s with cursor := c }

/-- A mark of one token, after which a key may start or not. -/
def Progress.mark (s : Progress) (length : Nat) (keyAllowed : Bool) (t : Token) : Progress :=
  { s.emit t with cursor := s.cursor.skip length, keyAllowed := keyAllowed }

/-- A mark in front of a block entry or a key of several lines. In a block it may
stand only where a key may. -/
def Progress.blockMark (s : Progress) (opening : Token) (keyAllowed : Bool) (t : Token) :
    Option Progress :=
  if s.inFlow then s.dropPending.map (·.mark 1 keyAllowed t)
  else if s.keyAllowed then
    (s.openBlock s.cursor.column s.tokens.length opening).dropPending.map (·.mark 1 keyAllowed t)
  else none

/-- A colon. With a pending key the tokens of the key are put in front of it. -/
def Progress.colon (s : Progress) : Option Progress :=
  match s.pending with
  | some key =>
    let s := (s.insertAfter key.before .key).openBlock key.column key.before .blockMappingStart
    some ({ s with pending := none }.mark 1 false .value)
  | none =>
    if s.inFlow then some (s.mark 1 false .value)
    else if s.keyAllowed then
      some ((s.openBlock s.cursor.column s.tokens.length .blockMappingStart).mark 1 true .value)
    else none

/-- Opens a flow collection, which may itself be a key. -/
def Progress.openFlow (s : Progress) (t : Token) : Option Progress :=
  s.notePending.map fun s =>
    { s.mark 1 true t with pending := none, outerPending := s.pending :: s.outerPending }

/-- Closes a flow collection. -/
def Progress.closeFlow (s : Progress) (t : Token) : Option Progress :=
  s.dropPending.map fun s =>
    match s.outerPending with
    | outer :: rest => { s.mark 1 false t with pending := outer, outerPending := rest }
    | [] => s.mark 1 false t

/-- A token of some length that may start a key. -/
def Progress.item (s : Progress) (read : Cursor → Option (Token × Cursor)) : Option Progress := do
  let s ← s.notePending
  let (t, c) ← read s.cursor
  return { s.emit t with cursor := c, keyAllowed := false }

/-- The column that an entry of the innermost block starts at. -/
def Progress.indent (s : Progress) : Int :=
  match s.indents with
  | column :: _ => column
  | [] => -1

/-- A plain scalar. One that ends with its line may be followed by a key. -/
def Progress.plainScalar (s : Progress) : Option Progress := do
  let s ← s.notePending
  let (text, c, endedByBreak) ←
    readPlain s.inFlow (s.indent + 1).toNat (s.cursor.rest.length + 1) s.cursor [] Spacing.none
  return { s.emit (.scalar .plain (String.ofList text)) with
    cursor := c, keyAllowed := endedByBreak }

/-- A block scalar. -/
def Progress.blockScalar (s : Progress) (folded : Bool) : Option Progress := do
  let s ← s.dropPending
  let (text, c) ← readBlock folded s.indent (s.cursor.skip 1)
  return { s.emit (.scalar (if folded then .folded else .literal) (String.ofList text)) with
    cursor := c, keyAllowed := true }

/-- A quoted scalar. -/
def readQuotedToken (double : Bool) (c : Cursor) : Option (Token × Cursor) := do
  let (text, next) ← readQuoted double (c.rest.length + 1) (c.skip 1) []
  return (.scalar (if double then .doubleQuoted else .singleQuoted) (String.ofList text), next)

/-- The name behind an ampersand or an asterisk. -/
def readAnchorToken (token : String → Token) (c : Cursor) : Option (Token × Cursor) := do
  let (name, c) ← readAnchorName (c.skip 1)
  return (token name, c)

/-- A tag and what may follow it. -/
def readTagToken (inFlow : Bool) (c : Cursor) : Option (Token × Cursor) := do
  let (t, c) ← readTag c
  if atSpacing c.rest || (inFlow && c.rest.head? == some ',') then return (t, c) else none

/-- A line that belongs to no document: a directive, or a mark between
documents. -/
def Progress.outerLine (s : Progress) (read : Cursor → Option (Token × Cursor)) :
    Option Progress := do
  let s ← s.closeAll.dropPending
  let (t, c) ← read s.cursor
  return { s.emit t with cursor := c, keyAllowed := false }

/-- Whether a plain scalar may start with the text. -/
def startsPlain (inFlow : Bool) : List Char → Bool
  | [] => false
  | x :: rest =>
    if x == '-' then !(rest.head?.any isGap)
    else if x == '?' || x == ':' then !inFlow && !atSpacing rest
    else !isSpacing x && !isFlowMark x && !"#&*!|>'\"%@".toList.contains x && x.toNat != 0x60

/-- One token, with the tokens that it brings along. The cursor stands on its first
character. -/
def Progress.step (s : Progress) : Option Progress :=
  match s.cursor.rest with
  | [] => none
  | x :: rest =>
    let n := x.toNat
    if s.cursor.column == 0 && x == '%' then s.outerLine readDirective
    else if s.cursor.atDocumentMark then
      s.outerLine fun c => some (if x == '-' then .documentStart else .documentEnd, c.skip 3)
    else if x == '[' then s.openFlow .flowSequenceStart
    else if n == 0x7B then s.openFlow .flowMappingStart
    else if x == ']' then s.closeFlow .flowSequenceEnd
    else if n == 0x7D then s.closeFlow .flowMappingEnd
    else if x == ',' then s.dropPending.map (·.mark 1 true .flowEntry)
    else if x == '-' && atSpacing rest then s.blockMark .blockSequenceStart true .blockEntry
    else if x == '?' && (s.inFlow || atSpacing rest) then
      s.blockMark .blockMappingStart (!s.inFlow) .key
    else if x == ':' && (s.inFlow || atSpacing rest) then s.colon
    else if x == '*' then s.item (readAnchorToken .alias)
    else if x == '&' then s.item (readAnchorToken .anchor)
    else if x == '!' then s.item (readTagToken s.inFlow)
    else if x == '|' && !s.inFlow then s.blockScalar false
    else if x == '>' && !s.inFlow then s.blockScalar true
    else if x == '\'' then s.item (readQuotedToken false)
    else if x == '"' then s.item (readQuotedToken true)
    else if startsPlain s.inFlow (x :: rest) then s.plainScalar
    else none

/-- Reads tokens to the end of the text. -/
def Progress.run : Nat → Progress → Option Progress
  | 0, _ => none
  | fuel + 1, s => do
    let s ← (s.skipSpacing s.cursor.rest.length).dropStale
    if s.cursor.rest.isEmpty then s.closeAll.dropPending
    else (← (s.closeBlocks (deeperBlocks s.indents s.cursor.column)).step).run fuel

/-! ## Texts -/

/-- The tokens of a text. -/
def tokens? (s : String) : Option (List Token) :=
  let cs := s.toList
  if cs.all isAllowed then
    ((Progress.start cs).run (cs.length + 1)).map (·.tokens.reverse)
  else none

end ExtensionHost.Yaml
