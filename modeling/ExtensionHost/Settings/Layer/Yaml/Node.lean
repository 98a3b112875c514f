import ExtensionHost.Decimal.Literal
import ExtensionHost.Settings.Layer.Basic
import ExtensionHost.Settings.Layer.Yaml.Token

/-!
# Nodes of a layer

What the text of a layer says. A plain scalar is a number, a truth value or null if it
looks like one, and every other scalar is a text. A tag of the standard kinds asks for
that kind; a scalar that is none, and an alias inside the node that it means, stand for
no value. A value that is not there is null, but a text where it has an anchor or a tag.
-/

namespace ExtensionHost.LayerYaml

open Yaml (Token ScalarStyle)

/-! ## Nodes -/

/-- A node of a document. A decimal number is kept as it is written. -/
inductive Node where
  | null
  | bool (b : Bool)
  | int (n : Int)
  | decimal (s : String)
  | text (s : String)
  | list (items : List Node)
  | table (pairs : List (Node × Node))
  | noValue
  deriving Inhabited

/-- Whether the node stands for no value. -/
def Node.isNoValue : Node → Bool
  | .noValue => true
  | _ => false

/-- Whether two nodes are the same scalar. -/
def Node.sameScalar : Node → Node → Bool
  | .null, .null => true
  | .bool a, .bool b => a == b
  | .int a, .int b => a == b
  | .decimal a, .decimal b => a == b
  | .text a, .text b => a == b
  | _, _ => false

/-! ## Scalars -/

/-- Whether a text is the literal of a decimal number. The words for infinity and for
no number count where they cannot be taken for other words. -/
def isDecimalText (s : String) : Bool :=
  [".inf", ".Inf", ".INF", "+.inf", "+.Inf", "+.INF", "-.inf", "-.Inf", "-.INF", ".nan", "NaN",
    ".NAN"].contains s || (s.toList.any isDigit && (Double.parse? s.toList).isSome)

/-- The integer that a plain scalar is. -/
def plainInteger? (cs : List Char) : Option Int :=
  let marked := match cs with
    | '0' :: 'x' :: digits => parseSigned? 16 digits
    | '0' :: 'o' :: digits => parseSigned? 8 digits
    | '+' :: digits => parseSigned? 10 digits
    | _ => none
  match marked.filter (fun n => longMin ≤ n ∧ n ≤ longMax) with
  | some n => some n
  | none => parseLong? cs

/-- The null that a text writes. -/
def isNullText (s : String) : Bool :=
  s == "~" || s == "null"

/-- The truth value that a text writes. -/
def truthOfText? (s : String) : Option Bool :=
  if s == "true" then some true else if s == "false" then some false else none

/-- The node of a plain scalar without a tag. -/
def Node.ofPlain (s : String) : Node :=
  match plainInteger? s.toList with
  | some n => .int n
  | none =>
    if isNullText s then .null
    else match truthOfText? s with
      | some b => .bool b
      | none => if isDecimalText s then .decimal s else .text s

/-- The node of a plain scalar with a tag of a standard kind. -/
def Node.ofKind (kind s : String) : Node :=
  match kind with
  | "bool" => ((truthOfText? s).map .bool).getD .noValue
  | "int" => ((parseLong? s.toList).map .int).getD .noValue
  | "float" => if isDecimalText s then .decimal s else .noValue
  | "null" => if isNullText s then .null else .noValue
  | _ => .text s

/-- What the tags of the standard kinds start with. -/
def standardKinds : String := "tag:yaml.org,2002:"

/-- The node of a scalar. Only a plain one can be anything but a text. -/
def Node.ofScalar (style : ScalarStyle) (tag : Option (String × String)) (s : String) : Node :=
  match style, tag with
  | .plain, none => .ofPlain s
  | .plain, some (handle, kind) => if handle == standardKinds then .ofKind kind s else .text s
  | _, _ => .text s

/-! ## Tables -/

/-- Fills a table with nodes that are keys and values in turn, given the key that waits
for its value. A key without a value of its own gives its place to the next node. No
key may occur twice. -/
def fillTable (pairs : List (Node × Node)) : Node → List Node → Option (List (Node × Node))
  | _, [] => some pairs
  | key, node :: rest =>
    if key.isNoValue then fillTable pairs node rest
    else if pairs.any (·.1.sameScalar key) then none
    else fillTable (pairs ++ [(key, node)]) .noValue rest

/-- The table of the keys and values of a mapping. -/
def Node.ofMapping? (nodes : List Node) : Option Node :=
  (fillTable [] .noValue nodes).map .table

/-! ## Remaining tokens -/

/-- What is left of a list of tokens: the meanings of the tag handles, the number that
each name of an anchor has now, and the nodes with numbers that are complete. -/
structure Remaining where
  tokens : List Token
  handles : List (String × String)
  names : List (String × Nat)
  complete : List (Nat × Node)

/-- Past the next token. -/
def Remaining.drop (r : Remaining) : Remaining :=
  { r with tokens := r.tokens.drop 1 }

/-- Whether the next token is one of the given ones. -/
def Remaining.at (r : Remaining) (ts : List Token) : Bool :=
  r.tokens.head?.any ts.contains

/-- The node that an alias means; its name has to be known. -/
def Remaining.aliased? (r : Remaining) (name : String) : Option Node :=
  (r.names.lookup name).map fun number => (r.complete.lookup number).getD .noValue

/-- The meaning of a tag. A handle between two marks has to be known. -/
def Remaining.meaning? (r : Remaining) (handle suffix : String) : Option (String × String) :=
  match r.handles.lookup handle with
  | some meaning => some (meaning, suffix)
  | none =>
    if handle == "!!" then some (standardKinds, suffix)
    else if 2 ≤ handle.length && handle.toList.getLast? == some '!' then none
    else some (handle, suffix)

/-- What stands in front of a node. -/
structure Properties where
  number : Option Nat
  tag : Option (String × String)

/-- Whether a node is there though it has no content. -/
def Properties.isPresent (p : Properties) : Bool :=
  p.number.isSome || p.tag.isSome

/-- Gives the next number to a name. -/
def Remaining.define (r : Remaining) (name : String) : Nat × Remaining :=
  (r.names.length, { r with names := (name, r.names.length) :: r.names })

/-- The anchor and the tag in front of a node, in either order. -/
def Remaining.properties (r : Remaining) : Option (Properties × Remaining) :=
  let anchored := fun (name : String) (ts : List Token) =>
    let (number, r) := r.define name
    (some number, { r with tokens := ts })
  let make := fun (placed : Option Nat × Remaining) (tag : Option (String × String)) =>
    ((⟨placed.1, tag⟩, placed.2) : Properties × Remaining)
  match r.tokens with
  | .anchor name :: .tag handle suffix :: ts | .tag handle suffix :: .anchor name :: ts =>
    (r.meaning? handle suffix).map fun tag => make (anchored name ts) (some tag)
  | .anchor name :: ts => some (make (anchored name ts) none)
  | .tag handle suffix :: ts =>
    (r.meaning? handle suffix).map fun tag => make (none, { r with tokens := ts }) (some tag)
  | _ => some (make (none, r) none)

/-- A node is complete. -/
def Remaining.finish (r : Remaining) (p : Properties) (node : Node) : Remaining :=
  match p.number with
  | some number => { r with complete := (number, node) :: r.complete }
  | none => r

/-! ## Reading nodes -/

mutual

/-- A node. A sequence may stand at the indentation of the mapping around it. -/
def readNode : Nat → Bool → Bool → Remaining → Option (Node × Remaining)
  | 0, _, _, _ => none
  | fuel + 1, block, indentless, r =>
    match r.tokens with
    | .alias name :: _ => (r.aliased? name).map (·, r.drop)
    | _ => do
      let (p, r) ← r.properties
      let done := fun (node : Node) (r : Remaining) => some (node, r.finish p node)
      match r.tokens with
      | .scalar style text :: _ => done (.ofScalar style p.tag text) r.drop
      | .flowSequenceStart :: _ =>
        let (items, r) ← readFlowItems fuel true r.drop
        done (.list items) r
      | .flowMappingStart :: _ =>
        let (nodes, r) ← readFlowPairs fuel true r.drop
        done (← Node.ofMapping? nodes) r
      | t :: _ =>
        if indentless && t == .blockEntry then
          let (items, r) ← readBlockItems fuel true r
          done (.list items) r
        else if block && t == .blockSequenceStart then
          let (items, r) ← readBlockItems fuel false r.drop
          done (.list items) r
        else if block && t == .blockMappingStart then
          let (nodes, r) ← readBlockPairs fuel r.drop
          done (← Node.ofMapping? nodes) r
        else if p.isPresent then done (.ofScalar .plain p.tag "") r
        else none
      | [] => if p.isPresent then done (.ofScalar .plain p.tag "") r else none

/-- The entries of a sequence in a block, with the end of the block unless the sequence
has no block of its own. -/
def readBlockItems : Nat → Bool → Remaining → Option (List Node × Remaining)
  | 0, _, _ => none
  | fuel + 1, indentless, r =>
    if r.at [.blockEntry] then do
      let r := r.drop
      let stops := [.blockEntry, .blockEnd] ++ if indentless then [.key, .value] else []
      let (item, r) ← if r.at stops then some (Node.null, r) else readNode fuel true false r
      let (items, r) ← readBlockItems fuel indentless r
      return (item :: items, r)
    else if indentless then some ([], r)
    else if r.at [.blockEnd] then some ([], r.drop)
    else none

/-- The keys and values of a mapping in a block, with the end of the block. -/
def readBlockPairs : Nat → Remaining → Option (List Node × Remaining)
  | 0, _ => none
  | fuel + 1, r =>
    let part := fun (r : Remaining) =>
      if r.at [.key, .value, .blockEnd] then some (Node.null, r) else readNode fuel true true r
    if r.at [.blockEnd] then some ([], r.drop)
    else if !r.at [.key, .value] then none
    else do
      let (key, r) ← if r.at [.key] then part r.drop else some (Node.null, r)
      let (value, r) ← if r.at [.value] then part r.drop else some (Node.null, r)
      let (nodes, r) ← readBlockPairs fuel r
      return (key :: value :: nodes, r)

/-- The entries of a sequence between brackets. -/
def readFlowItems : Nat → Bool → Remaining → Option (List Node × Remaining)
  | 0, _, _ => none
  | fuel + 1, first, r =>
    if r.at [.flowSequenceEnd] then some ([], r.drop)
    else if !first && !r.at [.flowEntry] then none
    else
      let r := if first then r else r.drop
      if r.at [.flowSequenceEnd] then some ([], r.drop)
      else do
        let (item, r) ←
          if r.at [.key] then do
            let (nodes, r) ← readFlowPair fuel r.drop
            pure (← Node.ofMapping? nodes, r)
          else readNode fuel false false r
        let (items, r) ← readFlowItems fuel false r
        return (item :: items, r)

/-- A pair inside a sequence between brackets. The mark that a missing key is met at is
passed over. -/
def readFlowPair : Nat → Remaining → Option (List Node × Remaining)
  | 0, _ => none
  | fuel + 1, r => do
    let ends : List Token := [.flowEntry, .flowSequenceEnd]
    let (key, r) ←
      if r.at (.value :: ends) then some (Node.null, r.drop) else readNode fuel false false r
    let (value, r) ←
      if !r.at [.value] then some (Node.null, r)
      else if r.drop.at ends then some (Node.null, r.drop)
      else readNode fuel false false r.drop
    return ([key, value], r)

/-- The keys and values of a mapping between braces. A key alone has no value. -/
def readFlowPairs : Nat → Bool → Remaining → Option (List Node × Remaining)
  | 0, _, _ => none
  | fuel + 1, first, r =>
    let ends : List Token := [.flowEntry, .flowMappingEnd]
    if r.at [.flowMappingEnd] then some ([], r.drop)
    else if !first && !r.at [.flowEntry] then none
    else
      let r := if first then r else r.drop
      if r.at [.flowMappingEnd] then some ([], r.drop)
      else do
        let (key, paired, r) ←
          if r.at [.key] then
            let r := r.drop
            if r.at (.value :: ends) then some (Node.null, true, r)
            else (readNode fuel false false r).map fun (key, r) => (key, true, r)
          else if r.at [.value] then some (Node.null, true, r)
          else (readNode fuel false false r).map fun (key, r) => (key, false, r)
        let (value, r) ←
          if !paired || !r.at [.value] then some (Node.null, r)
          else if r.drop.at ends then some (Node.null, r.drop)
          else readNode fuel false false r.drop
        let (nodes, r) ← readFlowPairs fuel false r
        return (key :: value :: nodes, r)

end

/-! ## Documents -/

/-- The tag handles of the directives in front of a document, of which there may be one
version. Every directive takes the place of the ones before it. -/
def readDirectives : List Token → Bool → List (String × String) →
    Option (List (String × String) × List Token)
  | .version _ _ :: ts, versioned, _ => if versioned then none else readDirectives ts true []
  | .tagHandle handle meaning :: ts, versioned, _ => readDirectives ts versioned [(handle, meaning)]
  | ts, _, handles => some (handles, ts)

/-- Whether a token stands between documents. -/
def isOuter : Token → Bool
  | .version _ _ | .tagHandle _ _ | .documentStart | .documentEnd => true
  | _ => false

/-- The node that a document consists of. -/
def readRoot (tokens : List Token) (handles : List (String × String)) :
    Option (Node × List Token) :=
  (readNode (4 * tokens.length + 8) true false ⟨tokens, handles, [], []⟩).map
    fun (node, r) => (node, r.tokens)

/-- The content of a document after its mark, which may be nothing. -/
def readContent (tokens : List Token) (handles : List (String × String)) :
    Option (Node × List Token) :=
  if tokens.head?.any isOuter || tokens.isEmpty then some (.null, tokens)
  else readRoot tokens handles

/-- The first document and the tokens after it. Without directives it needs no mark. -/
def readDocument (tokens : List Token) : Option (Node × List Token) :=
  if tokens.head?.any isOuter then do
    let (handles, rest) ← readDirectives tokens false []
    if rest.head? == some .documentStart then readContent (rest.drop 1) handles else none
  else readRoot tokens []

/-- The node of a text that holds one document at most. A text without one stands for an
empty table. -/
def parse (s : String) : Option Node := do
  let tokens := (← tokens? s).dropWhile (· == .documentEnd)
  if tokens.isEmpty then return .table []
  else
    let (node, rest) ← readDocument tokens
    if rest.all (· == .documentEnd) then return node else none

/-! ## Values -/

/-- The name that a key stands for. -/
def Node.asName? : Node → Option String
  | .text s | .decimal s => some s
  | .int n => some (intText n)
  | .bool b => some (boolText b)
  | _ => none

mutual

/-- The value of a node. A decimal number that is written in words with a dot has
none. -/
def Node.setting? : Node → Option Setting
  | .null | .noValue => some .null
  | .bool b => some (.bool b)
  | .int n => some (.int n)
  | .decimal s => (Double.parse? s.toList).map .decimal
  | .text s => some (.text s)
  | .list items => (Node.settings? items).map .list
  | .table pairs => (Node.entries? pairs).map .table

/-- The values of the items of a list. -/
def Node.settings? : List Node → Option (List Setting)
  | [] => some []
  | item :: rest => do
    let item ← item.setting?
    let rest ← Node.settings? rest
    return item :: rest

/-- The values of the entries of a table. Of several keys that stand for one name the
last one counts. -/
def Node.entries? : List (Node × Node) → Option (List (String × Setting))
  | [] => some []
  | (key, value) :: rest => do
    let name ← key.asName?
    let value ← value.setting?
    let entries ← Node.entries? rest
    return if entries.any (·.1 == name) then entries else (name, value) :: entries

end

end ExtensionHost.LayerYaml
