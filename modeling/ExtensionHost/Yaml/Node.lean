import ExtensionHost.Document
import ExtensionHost.Yaml.Token

/-!
# Nodes

What a YAML text says: scalars, sequences and mappings. An anchor gives a node a
number, the count of the names in use before it, so that a name that is used again
makes later numbers coincide. An alias means the last node of the whole text with
the number that its name has where it stands.

A typed reader takes any scalar for a text, whatever it looks like. Numbers and
truth values have to be written plainly. An empty scalar is also an empty mapping
and an empty sequence.
-/

namespace ExtensionHost.Yaml

/-! ## Nodes -/

/-- A node of a document. -/
inductive Node where
  | scalar (style : ScalarStyle) (tag : Option String) (text : String)
  | sequence (items : List Node)
  | mapping (pairs : List (Node × Node))
  | anchored (number : Nat) (node : Node)
  | alias (number : Nat)
  deriving Inhabited

/-- A scalar that is not there. -/
def Node.absent : Node :=
  .scalar .plain none ""

/-- What is left of a list of tokens, with the numbers of the anchors' names and the
tag handles that are known. -/
structure Remaining where
  tokens : List Token
  anchors : List (String × Nat)
  handles : List (String × String)

/-- Past the next token. -/
def Remaining.drop (r : Remaining) : Remaining :=
  { r with tokens := r.tokens.drop 1 }

/-- Whether the next token is one of the given ones. -/
def Remaining.at (r : Remaining) (ts : List Token) : Bool :=
  r.tokens.head?.any ts.contains

/-- Whether the next token is one of the given ones, or there is none. -/
def Remaining.atEndOr (r : Remaining) (ts : List Token) : Bool :=
  r.tokens.isEmpty || r.at ts

/-- Gives a number to the node that follows, if it has an anchor. -/
def Remaining.number (r : Remaining) : Option String → Option Nat × Remaining
  | some name =>
    let number := r.anchors.length
    (some number, { r with anchors := (name, number) :: r.anchors.filter (·.1 != name) })
  | none => (none, r)

/-- The node with its number. -/
def Node.numbered (node : Node) : Option Nat → Node
  | some number => .anchored number node
  | none => node

/-- The anchor and the tag in front of a node, in either order. -/
def Remaining.properties (r : Remaining) : Option String × Option (String × String) × Remaining :=
  match r.tokens with
  | .anchor name :: .tag handle suffix :: ts =>
    (some name, some (handle, suffix), { r with tokens := ts })
  | .tag handle suffix :: .anchor name :: ts =>
    (some name, some (handle, suffix), { r with tokens := ts })
  | .anchor name :: ts => (some name, none, { r with tokens := ts })
  | .tag handle suffix :: ts => (none, some (handle, suffix), { r with tokens := ts })
  | _ => (none, none, r)

/-- The whole text of a tag; its handle has to be known. -/
def Remaining.tagText (r : Remaining) : Option (String × String) → Option (Option String)
  | none => some none
  | some ("", suffix) => some (some suffix)
  | some (handle, suffix) => (r.handles.lookup handle).map fun meaning => some (meaning ++ suffix)

/-! ## Reading nodes -/

mutual

/-- A node. A sequence may stand at the indentation of the mapping around it. -/
def readNode : Nat → Bool → Bool → Remaining → Option (Node × Remaining)
  | 0, _, _, _ => none
  | fuel + 1, block, indentless, r =>
    match r.tokens with
    | .alias name :: _ => (r.anchors.lookup name).map fun number => (.alias number, r.drop)
    | _ => do
      let (anchor, tag, r) := r.properties
      let tagged := anchor.isSome || tag.isSome
      let tag ← r.tagText tag
      let (number, r) := r.number anchor
      let close := fun (node : Node) (r : Remaining) => some (node.numbered number, r)
      match r.tokens with
      | .scalar style text :: _ => close (.scalar style tag text) r.drop
      | .flowSequenceStart :: _ =>
        let (items, r) ← readFlowItems fuel true r.drop
        close (.sequence items) r
      | .flowMappingStart :: _ =>
        let (pairs, r) ← readFlowPairs fuel true r.drop
        close (.mapping pairs) r
      | t :: _ =>
        if indentless && t == .blockEntry then do
          let (items, r) ← readBlockItems fuel true r
          close (.sequence items) r
        else if block && t == .blockSequenceStart then do
          let (items, r) ← readBlockItems fuel false r.drop
          close (.sequence items) r
        else if block && t == .blockMappingStart then do
          let (pairs, r) ← readBlockPairs fuel r.drop
          close (.mapping pairs) r
        else if tagged then close (.scalar .plain tag "") r
        else none
      | [] => if tagged then close (.scalar .plain tag "") r else none

/-- The entries of a sequence in a block, with the end of the block unless the
sequence has no block of its own. -/
def readBlockItems : Nat → Bool → Remaining → Option (List Node × Remaining)
  | 0, _, _ => none
  | fuel + 1, indentless, r =>
    if r.at [.blockEntry] then do
      let r := r.drop
      let stops := [.blockEntry, .blockEnd] ++ if indentless then [.key, .value] else []
      let (item, r) ← if r.at stops then some (Node.absent, r) else readNode fuel true false r
      let (items, r) ← readBlockItems fuel indentless r
      return (item :: items, r)
    else if indentless then some ([], r)
    else if r.at [.blockEnd] then some ([], r.drop)
    else none

/-- The pairs of a mapping in a block, with the end of the block. -/
def readBlockPairs : Nat → Remaining → Option (List (Node × Node) × Remaining)
  | 0, _ => none
  | fuel + 1, r =>
    let stops : List Token := [.key, .value, .blockEnd]
    let part := fun (r : Remaining) =>
      if r.at stops then some (Node.absent, r) else readNode fuel true true r
    if r.at [.blockEnd] then some ([], r.drop)
    else if r.at [.key] then do
      let (key, r) ← part r.drop
      let (value, r) ← if r.at [.value] then part r.drop else some (Node.absent, r)
      let (pairs, r) ← readBlockPairs fuel r
      return ((key, value) :: pairs, r)
    else none

/-- The entries of a sequence between brackets. A pair is a mapping of its own. -/
def readFlowItems : Nat → Bool → Remaining → Option (List Node × Remaining)
  | 0, _, _ => none
  | fuel + 1, first, r =>
    if r.at [.flowSequenceEnd] then some ([], r.drop)
    else if !first && !r.at [.flowEntry] then none
    else
      let r := if first then r else r.drop
      if r.at [.flowSequenceEnd] then some ([], r.drop)
      else do
        let (item, r) ←
          if r.at [.key] then do
            let (pair, r) ← readFlowPair fuel r.drop
            pure (Node.mapping [pair], r)
          else readNode fuel false false r
        let (items, r) ← readFlowItems fuel false r
        return (item :: items, r)

/-- A pair inside a sequence between brackets. The mark that a missing key is met
at is passed over. -/
def readFlowPair : Nat → Remaining → Option ((Node × Node) × Remaining)
  | 0, _ => none
  | fuel + 1, r => do
    let (key, r) ←
      if r.atEndOr [.value, .flowEntry, .flowSequenceEnd] then some (Node.absent, r.drop)
      else readNode fuel false false r
    if r.at [.value] && !r.drop.atEndOr [.flowEntry, .flowSequenceEnd] then do
      let (value, r) ← readNode fuel false false r.drop
      return ((key, value), r)
    else return ((key, .absent), if r.at [.value] then r.drop else r)

/-- The pairs of a mapping between braces. A key alone has no value. -/
def readFlowPairs : Nat → Bool → Remaining → Option (List (Node × Node) × Remaining)
  | 0, _, _ => none
  | fuel + 1, first, r =>
    let ends : List Token := [.flowEntry, .flowMappingEnd]
    if r.at [.flowMappingEnd] then some ([], r.drop)
    else if !first && !r.at [.flowEntry] then none
    else
      let r := if first then r else r.drop
      if r.at [.flowMappingEnd] then some ([], r.drop)
      else do
        let (pair, r) ←
          if r.at [.key] then do
            let r := r.drop
            let (key, r) ←
              if r.at (.value :: ends) then some (Node.absent, r) else readNode fuel false false r
            if r.at [.value] then
              if r.drop.at ends then some ((key, Node.absent), r.drop)
              else (readNode fuel false false r.drop).map fun (value, r) => ((key, value), r)
            else some ((key, Node.absent), r)
          else (readNode fuel false false r).map fun (key, r) => ((key, Node.absent), r)
        let (pairs, r) ← readFlowPairs fuel false r
        return (pair :: pairs, r)

end

/-! ## Documents -/

/-- The tag handles that are known in every document. -/
def knownHandles : List (String × String) :=
  [("!", "!"), ("!!", "tag:yaml.org,2002:")]

/-- The directives in front of a document: at most one version, and no tag handle
twice. -/
def readDirectives : List Token → Bool → List (String × String) →
    Option (List (String × String) × List Token)
  | .version major minor :: ts, versioned, handles =>
    if versioned || major != 1 || (minor != 1 && minor != 2) then none
    else readDirectives ts true handles
  | .tagHandle handle meaning :: ts, versioned, handles =>
    if handles.any (·.1 == handle) then none
    else readDirectives ts versioned (handles ++ [(handle, meaning)])
  | ts, _, handles => some (handles ++ knownHandles, ts)

/-- Whether a token stands between documents. -/
def Token.isOuter : Token → Bool
  | .version _ _ | .tagHandle _ _ | .documentStart | .documentEnd => true
  | _ => false

/-- The node that a document consists of. -/
def readRoot (tokens : List Token) (handles : List (String × String)) :
    Option (Node × List Token) :=
  (readNode (4 * tokens.length + 8) true false ⟨tokens, [], handles⟩).map
    fun (node, r) => (node, r.tokens)

/-- The content of a document after its mark, which may be nothing. -/
def readContent (tokens : List Token) (handles : List (String × String)) :
    Option (Node × List Token) :=
  match tokens with
  | [] => some (.absent, [])
  | t :: _ => if t.isOuter then some (.absent, tokens) else readRoot tokens handles

/-- The first document and the tokens after it; only the first one may start
without a mark. -/
def readFirst : List Token → Option (Option Node × List Token)
  | [] => some (none, [])
  | t :: ts => do
    let ((node, rest) : Node × List Token) ←
      if t.isOuter && t != .documentEnd then do
        let (handles, rest) ← readDirectives (t :: ts) false []
        match rest with
        | .documentStart :: rest => readContent rest handles
        | _ => none
      else readRoot (t :: ts) knownHandles
    return (some node, match rest with
      | .documentEnd :: rest => rest
      | rest => rest)

/-- The node of a text that holds one document at most. A text without one stands
for an empty mapping. -/
def Node.parse (s : String) : Option Node := do
  match ← readFirst (← tokens? s) with
  | (none, _) => some (.mapping [])
  | (some node, rest) =>
    if (rest.dropWhile (· == .documentEnd)).isEmpty then some node else none

/-! ## Aliases -/

mutual

/-- The nodes with numbers, in the order of the text. -/
def Node.anchors : Node → List (Nat × Node)
  | .scalar .. | .alias _ => []
  | .sequence items => Node.anchorsOfItems items
  | .mapping pairs => Node.anchorsOfPairs pairs
  | .anchored number node => (number, node) :: node.anchors

/-- The nodes with numbers in the items of a sequence. -/
def Node.anchorsOfItems : List Node → List (Nat × Node)
  | [] => []
  | item :: rest => item.anchors ++ Node.anchorsOfItems rest

/-- The nodes with numbers in the pairs of a mapping. -/
def Node.anchorsOfPairs : List (Node × Node) → List (Nat × Node)
  | [] => []
  | (key, value) :: rest => key.anchors ++ value.anchors ++ Node.anchorsOfPairs rest

end

/-- What a text says in one place: a node, and the nodes that aliases may mean, the
last one first. -/
structure Content where
  targets : List (Nat × Node)
  written : Node

/-- The content of a text. -/
def parse (s : String) : Option Content :=
  (Node.parse s).map fun node => ⟨node.anchors.reverse, node⟩

/-- Another node of the same text. -/
def Content.at (c : Content) (node : Node) : Content :=
  { c with written := node }

/-- The node that is meant: an alias means the node with its number. -/
def Content.node (c : Content) : Node :=
  match c.written with
  | .alias number => (c.targets.lookup number).getD .absent
  | .anchored _ node => node
  | node => node

/-! ## Typed reading -/

/-- The texts of null. -/
def isNullText (s : String) : Bool :=
  ["", "~", "null", "Null", "NULL"].contains s

/-- Whether the scalar may stand for a value of the kind with the tag: one written
plainly, or a literal block with that tag. -/
def standsFor (kind : String) (style : ScalarStyle) (tag : Option String) : Bool :=
  style == .plain || (style == .literal && tag == some ("tag:yaml.org,2002:" ++ kind))

/-- Digits without a leading zero. -/
def parseDecimal? (cs : List Char) : Option Nat :=
  if cs.head? == some '0' && cs.length != 1 then none else parseDigits? 10 cs

/-- An integer without its sign: decimal, or in another base behind its mark. -/
def parseMagnitude? : List Char → Option Nat
  | '0' :: 'x' :: cs => parseDigits? 16 cs
  | '0' :: 'o' :: cs => parseDigits? 8 cs
  | '0' :: 'b' :: cs => parseDigits? 2 cs
  | cs => parseDecimal? cs

/-- An integer, with an optional sign. -/
def parseInteger? : List Char → Option Int
  | '-' :: cs => (parseMagnitude? cs).map fun n => -(n : Int)
  | '+' :: cs => (parseMagnitude? cs).map Int.ofNat
  | cs => (parseMagnitude? cs).map Int.ofNat

/-- The truth value with the text. -/
def parseTruth? (s : String) : Option Bool :=
  if ["true", "True", "TRUE"].contains s then some true
  else if ["false", "False", "FALSE"].contains s then some false
  else none

/-- The text of a scalar. -/
def Node.text? : Node → Option String
  | .scalar _ _ text => some text
  | _ => none

/-- The integer of a scalar. -/
def Node.integer? : Node → Option Int
  | .scalar style tag text => if standsFor "int" style tag then parseInteger? text.toList else none
  | _ => none

/-- The name that a scalar chooses: its text, or that of its tag if it has one of its
own and is a plain null. -/
def Node.choice? (names : List String) : Node → Option String
  | .scalar style tag text =>
    let chosen := match (tag.getD "").toList with
      | '!' :: name =>
        if style == ScalarStyle.plain && isNullText text then some (String.ofList name) else none
      | _ => some text
    chosen.filter names.contains
  | _ => none

/-- The content of a text answers by the rules of its scalars. -/
instance : Document Content where
  members? c :=
    match c.node with
    | .mapping pairs => pairs.mapM fun (key, value) => (c.at key).node.text?.map (·, c.at value)
    | .scalar .plain _ "" => some []
    | _ => none
  positional? _ _ := none
  items? c :=
    match c.node with
    | .sequence items => some (items.map c.at)
    | .scalar .plain _ "" => some []
    | _ => none
  text? c := c.node.text?
  optionalText? c :=
    match c.node with
    | .scalar .plain none text => if isNullText text then some none else some (some text)
    | .scalar .plain (some "tag:yaml.org,2002:null") text =>
      if isNullText text && text != "" then some none else none
    | .scalar _ _ text => some (some text)
    | _ => none
  signed? c := c.node.integer?
  unsigned? c :=
    match c.node with
    | .scalar _ _ text => if text.toList.head? == some '-' then none else c.node.integer?
    | _ => none
  bool? c :=
    match c.node with
    | .scalar style tag text => if standsFor "bool" style tag then parseTruth? text else none
    | _ => none
  choice? names c := c.node.choice? names

end ExtensionHost.Yaml
