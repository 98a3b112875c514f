import ExtensionHost.Text.Number

/-!
# Places in a text

The rest of a text with the line and the column it starts at, and the classes of
characters that the structure of a YAML text rests on. A line ends at any of the
five line breaks; a carriage return and a line feed together are one of them.
-/

namespace ExtensionHost.Yaml

/-! ## Characters -/

/-- A space or a tab. -/
def isGap (c : Char) : Bool :=
  c == ' ' || c == '\t'

/-- A character that ends a line. -/
def isBreak (c : Char) : Bool :=
  c == '\n' || c == '\r' || c.toNat == 0x85 || c.toNat == 0x2028 || c.toNat == 0x2029

/-- A gap or a line break. -/
def isSpacing (c : Char) : Bool :=
  isGap c || isBreak c

/-- Whether the text is at its end, or goes on with a gap or a line break. -/
def atSpacing : List Char → Bool
  | [] => true
  | c :: _ => isSpacing c

/-- A character that opens or closes a flow collection, or separates its entries. -/
def isFlowMark (c : Char) : Bool :=
  c == ',' || c == '[' || c == ']' || c.toNat == 0x7B || c.toNat == 0x7D

/-- A character that may stand in a YAML text. -/
def isAllowed (c : Char) : Bool :=
  let n := c.toNat
  n == 9 || n == 10 || n == 13 || (0x20 ≤ n && n ≤ 0x7E) || n == 0x85 ||
    (0xA0 ≤ n && n ≤ 0xFFFD) || 0x10000 ≤ n

/-- The mark of an encoding, which may stand at the start of a line. -/
def isEncodingMark (c : Char) : Bool :=
  c.toNat == 0xFEFF

/-! ## Cursors -/

/-- The rest of a text and where it starts: the bytes in front of it, its line, and
the characters in front of it on this line. -/
structure Cursor where
  rest : List Char
  index : Nat
  line : Nat
  column : Nat
  deriving Repr

/-- The start of a text. -/
def Cursor.start (cs : List Char) : Cursor :=
  ⟨cs, 0, 0, 0⟩

/-- How many bytes a number of characters takes. -/
def bytesOf (cs : List Char) (n : Nat) : Nat :=
  (cs.take n).foldl (fun size x => size + x.utf8Size) 0

/-- Past a number of characters that are no line breaks. -/
def Cursor.skip (c : Cursor) (n : Nat) : Cursor :=
  { c with rest := c.rest.drop n, index := c.index + bytesOf c.rest n, column := c.column + n }

/-- Past a line break, with the characters that stand for it in a value. -/
def Cursor.takeBreak (c : Cursor) : List Char × Cursor :=
  let next := fun (n : Nat) =>
    { c with
      rest := c.rest.drop n
      index := c.index + bytesOf c.rest n
      line := c.line + 1
      column := 0 }
  match c.rest with
  | '\r' :: '\n' :: _ => (['\n'], next 2)
  | x :: _ => if x.toNat == 0x2028 || x.toNat == 0x2029 then ([x], next 1) else (['\n'], next 1)
  | [] => ([], c)

/-- Past the characters at the start that satisfy a condition; they are no line
breaks. -/
def Cursor.takeWhile (c : Cursor) (p : Char → Bool) : List Char × Cursor :=
  let taken := c.rest.takeWhile p
  (taken, c.skip taken.length)

/-- Past the mark of an encoding at the start of a line. -/
def Cursor.skipEncodingMark (c : Cursor) : Cursor :=
  if c.column == 0 && c.rest.head?.any isEncodingMark then c.skip 1 else c

/-- Whether a line starts here with a mark between documents. -/
def Cursor.atDocumentMark (c : Cursor) : Bool :=
  c.column == 0 &&
    match c.rest with
    | '-' :: '-' :: '-' :: rest => atSpacing rest
    | '.' :: '.' :: '.' :: rest => atSpacing rest
    | _ => false

end ExtensionHost.Yaml
