import ExtensionHost.Json.Basic

/-!
# Reading JSON

A strict reader: four blank characters, no trailing comma, no leading zero, no
raw control character in a string, and nothing but blanks after the value.

Every reader takes the text that is left and gives back what it read with the
rest. Values nest, so the readers of values are bounded by a count that starts
at the length of the text; each level of nesting uses up at least one character.
-/

namespace ExtensionHost

/-! ## Blanks and literals -/

/-- The blanks between tokens. -/
def isJsonBlank (c : Char) : Bool :=
  c == ' ' || c == '\n' || c == '\t' || c == '\r'

/-- The text after its leading blanks. -/
def skipJsonBlank (cs : List Char) : List Char :=
  cs.dropWhile isJsonBlank

/-- The rest after a literal. -/
def expectChars : List Char → List Char → Option (List Char)
  | [], cs => some cs
  | a :: as, c :: cs => if a == c then expectChars as cs else none
  | _ :: _, [] => none

/-! ## Numbers -/

/-- The digits of an unsigned integer without superfluous leading zeros. -/
def readWholePart (cs : List Char) : Option (List Char × List Char) :=
  match cs.takeWhile isDigit with
  | [] => none
  | ['0'] => some (['0'], cs.drop 1)
  | '0' :: _ => none
  | ds => some (ds, cs.dropWhile isDigit)

/-- The digits after a point, none where there is no point. -/
def readFraction : List Char → Option (List Char × List Char)
  | '.' :: cs =>
    match cs.takeWhile isDigit with
    | [] => none
    | ds => some (ds, cs.dropWhile isDigit)
  | cs => some ([], cs)

/-- The exponent with its sign, none where there is none. -/
def readExponent (cs : List Char) : Option (Option Int × List Char) :=
  match cs with
  | c :: rest =>
    if c == 'e' || c == 'E' then
      let (negative, rest) := match rest with
        | '-' :: r => (true, r)
        | '+' :: r => (false, r)
        | r => (false, r)
      match rest.takeWhile isDigit with
      | [] => none
      | ds =>
        let n : Int := numberOfDigits 10 ds
        some (some (if negative then -n else n), rest.dropWhile isDigit)
    else some (none, cs)
  | [] => some (none, [])

/-- A number. A minus zero is no integer, since its sign would be lost. -/
def readJsonNumber (cs : List Char) : Option (Json × List Char) := do
  let (negative, cs) := match cs with
    | '-' :: r => (true, r)
    | r => (false, r)
  let (whole, cs) ← readWholePart cs
  let (fraction, cs) ← readFraction cs
  let (exponent, cs) ← readExponent cs
  let n := numberOfDigits 10 whole
  if fraction.isEmpty && exponent.isNone && !(negative && n == 0) then
    return (.int (if negative then -(n : Int) else n), cs)
  return (.decimal ⟨negative, whole, fraction, exponent.getD 0⟩, cs)

/-! ## Strings -/

/-- The value of four hexadecimal digits. -/
def readHex4 : List Char → Option (Nat × List Char)
  | a :: b :: c :: d :: rest => do
    let a ← digitIn? 16 a
    let b ← digitIn? 16 b
    let c ← digitIn? 16 c
    let d ← digitIn? 16 d
    return (((a * 16 + b) * 16 + c) * 16 + d, rest)
  | _ => none

/-- A unit of an escape: a character, or half of a surrogate pair. -/
inductive StringUnit where
  | char (c : Char)
  | surrogate (n : Nat)

/-- The units of a string up to its closing quote. Each step uses up at least
one character. -/
def readStringUnits : Nat → List Char → Option (List StringUnit × List Char)
  | 0, _ => none
  | _ + 1, [] => none
  | fuel + 1, c :: cs =>
    if c == '"' then some ([], cs)
    else if c == '\\' then
      match cs with
      | [] => none
      | e :: cs =>
        let plain := fun (c : Char) =>
          (readStringUnits fuel cs).map fun (units, rest) => (.char c :: units, rest)
        if e == '"' || e == '\\' || e == '/' then plain e
        else if e == 'b' then plain (Char.ofNat 8)
        else if e == 'f' then plain (Char.ofNat 12)
        else if e == 'n' then plain '\n'
        else if e == 'r' then plain '\r'
        else if e == 't' then plain '\t'
        else if e == 'u' then do
          let (n, cs) ← readHex4 cs
          let (units, rest) ← readStringUnits fuel cs
          let unit := if 0xD800 ≤ n && n < 0xE000 then .surrogate n else .char (Char.ofNat n)
          return (unit :: units, rest)
        else none
    else if c.toNat < 32 then none
    else (readStringUnits fuel cs).map fun (units, rest) => (.char c :: units, rest)

/-- The characters of the units, if every surrogate is one half of a pair. -/
def joinSurrogates : List StringUnit → Option (List Char)
  | [] => some []
  | .char c :: rest => (joinSurrogates rest).map (c :: ·)
  | .surrogate high :: .surrogate low :: rest =>
    if high < 0xDC00 && 0xDC00 ≤ low then
      (joinSurrogates rest).map
        (Char.ofNat (0x10000 + (high - 0xD800) * 0x400 + (low - 0xDC00)) :: ·)
    else none
  | .surrogate _ :: _ => none

/-- A string after its opening quote; no text where a surrogate is unpaired. -/
def readJsonString (cs : List Char) : Option (Option String × List Char) :=
  (readStringUnits (cs.length + 1) cs).map fun (units, rest) =>
    ((joinSurrogates units).map String.ofList, rest)

/-! ## Values -/

/-- The object with the members, some of whose names may be no texts. -/
def Json.ofMembers (members : List (Option String × Json)) : Json :=
  match members.mapM fun (name, value) => name.map (·, value) with
  | some members => .object members
  | none => .unnamedObject (members.map (·.2))

mutual

/-- A value, after blanks. -/
def readJsonValue : Nat → List Char → Option (Json × List Char)
  | 0, _ => none
  | fuel + 1, cs =>
    match skipJsonBlank cs with
    | [] => none
    | c :: rest =>
      if c == 'n' then (expectChars ['u', 'l', 'l'] rest).map (.null, ·)
      else if c == 't' then (expectChars ['r', 'u', 'e'] rest).map (.bool true, ·)
      else if c == 'f' then (expectChars ['a', 'l', 's', 'e'] rest).map (.bool false, ·)
      else if c == '"' then
        (readJsonString rest).map fun (s, rest) =>
          (match s with | some s => .text s | none => .unpairedText, rest)
      else if c == '[' then
        match skipJsonBlank rest with
        | ']' :: rest => some (.array [], rest)
        | rest => (readJsonItems fuel rest).map fun (items, rest) => (.array items, rest)
      else if c.toNat == 0x7B then
        match skipJsonBlank rest with
        | d :: rest' =>
          if d.toNat == 0x7D then some (.object [], rest')
          else (readJsonMembers fuel (d :: rest')).map fun (ms, rest) => (.ofMembers ms, rest)
        | [] => none
      else readJsonNumber (c :: rest)

/-- The items of an array that is not empty, up to its closing bracket. -/
def readJsonItems : Nat → List Char → Option (List Json × List Char)
  | 0, _ => none
  | fuel + 1, cs =>
    match readJsonValue fuel cs with
    | none => none
    | some (v, rest) =>
      match skipJsonBlank rest with
      | ',' :: rest => (readJsonItems fuel rest).map fun (vs, rest) => (v :: vs, rest)
      | ']' :: rest => some ([v], rest)
      | _ => none

/-- The members of an object that is not empty, up to its closing brace. -/
def readJsonMembers : Nat → List Char → Option (List (Option String × Json) × List Char)
  | 0, _ => none
  | fuel + 1, cs =>
    match skipJsonBlank cs with
    | '"' :: rest =>
      match readJsonString rest with
      | some (name, rest) =>
        match skipJsonBlank rest with
        | ':' :: rest =>
          match readJsonValue fuel rest with
          | none => none
          | some (v, rest) =>
            match skipJsonBlank rest with
            | c :: rest =>
              if c == ',' then
                (readJsonMembers fuel rest).map fun (ms, rest) => ((name, v) :: ms, rest)
              else if c.toNat == 0x7D then some ([(name, v)], rest)
              else none
            | [] => none
        | _ => none
      | none => none
    | _ => none

end

/-- The value that the whole text writes. -/
def Json.parse (s : String) : Option Json :=
  let cs := s.toList
  match readJsonValue (2 * cs.length + 2) cs with
  | some (v, rest) => if (skipJsonBlank rest).isEmpty then some v else none
  | none => none

end ExtensionHost
