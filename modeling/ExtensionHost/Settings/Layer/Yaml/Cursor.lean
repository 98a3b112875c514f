import ExtensionHost.Yaml.Scalar

/-!
# Places in the text of a layer

The rest of a text with the place it starts at. Only line feeds and carriage returns
end lines here, no character is refused, and the text ends at the first zero. A
place also knows whether nothing but gaps stands in front of it on its line, since
tabs do not count as indentation.
-/

namespace ExtensionHost.LayerYaml

/-! ## Characters -/

/-- A character that ends a line. -/
def isBreak (c : Char) : Bool :=
  c == '\n' || c == '\r'

/-- A gap or a character that ends a line. -/
def isSpacing (c : Char) : Bool :=
  Yaml.isGap c || isBreak c

/-- Whether a line ends here. -/
def atLineEnd : List Char → Bool
  | [] => true
  | c :: _ => isBreak c

/-- Whether a word ends here. -/
def atSpacing : List Char → Bool
  | [] => true
  | c :: _ => isSpacing c

/-- Whether a flow mark follows. -/
def atFlowMark : List Char → Bool
  | [] => false
  | c :: _ => Yaml.isFlowMark c

/-! ## Cursors -/

/-- The rest of a text and where it starts. -/
structure Cursor where
  rest : List Char
  index : Nat
  line : Nat
  column : Nat
  indenting : Bool
  deriving Repr

/-- The start of a text. -/
def Cursor.start (cs : List Char) : Cursor :=
  ⟨cs.takeWhile (·.toNat != 0), 0, 0, 0, true⟩

/-- Past a number of gaps. -/
def Cursor.skipGaps (c : Cursor) (n : Nat) : Cursor :=
  { c with rest := c.rest.drop n, index := c.index + n, column := c.column + n }

/-- Past a number of characters of which one at least is no gap. -/
def Cursor.skip (c : Cursor) (n : Nat) : Cursor :=
  { c.skipGaps n with indenting := false }

/-- Past the characters at the start that satisfy a condition. -/
def Cursor.takeWhile (c : Cursor) (p : Char → Bool) : List Char × Cursor :=
  let taken := c.rest.takeWhile p
  (taken, if taken.isEmpty then c else c.skip taken.length)

/-- Past the gaps at the start. -/
def Cursor.dropGaps (c : Cursor) : Cursor :=
  c.skipGaps (c.rest.takeWhile Yaml.isGap).length

/-- Past a line break. -/
def Cursor.skipBreak (c : Cursor) : Cursor :=
  let next := fun (n : Nat) =>
    { c with
      rest := c.rest.drop n
      index := c.index + n
      line := c.line + 1
      column := 0
      indenting := true }
  match c.rest with
  | '\r' :: '\n' :: _ => next 2
  | x :: _ => if isBreak x then next 1 else c
  | [] => c

/-- Past the rest of the line. -/
def Cursor.skipLine (c : Cursor) : Cursor :=
  (c.takeWhile (!isBreak ·)).2

/-- What stands between a token and the end of its line. -/
structure Gap where
  tab : Bool
  space : Bool

/-- Past spaces, tabs where they are taken for gaps, and a comment, which needs a gap
in front of it. -/
def Cursor.skipGap (tabs : Bool) (c : Cursor) : Option (Gap × Cursor) :=
  let gaps := c.rest.takeWhile fun x => x == ' ' || (tabs && x == '\t')
  let c := c.skipGaps gaps.length
  let gap := ⟨gaps.contains '\t', gaps.contains ' '⟩
  if c.rest.head? == some '#' then
    if gaps.isEmpty then none else some (gap, c.skipLine)
  else some (gap, c)

/-- Whether a line starts here with the mark, three times, and then a word ends. -/
def Cursor.atMark (mark : Char) (c : Cursor) : Bool :=
  c.column == 0 &&
    match c.rest with
    | x :: y :: z :: rest => x == mark && y == mark && z == mark && atSpacing rest
    | _ => false

/-- Whether a line starts here with a mark between documents. -/
def Cursor.atDocumentMark (c : Cursor) : Bool :=
  c.atMark '-' || c.atMark '.'

end ExtensionHost.LayerYaml
