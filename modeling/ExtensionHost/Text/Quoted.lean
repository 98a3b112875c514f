import ExtensionHost.Text.Unprintable

/-!
# Quoted text

Text between double quotes, so that it can be read off unambiguously: a quote
and a backslash are escaped, the usual controls have short escapes, and any
other character without a print of its own is written by its number.
-/

namespace ExtensionHost

/-! ## One character -/

/-- The number of a character in lower-case hexadecimal, without leading zeros. -/
def hexDigits (n : Nat) : List Char :=
  Nat.toDigits 16 n

/-- A printable character of ASCII other than the quote and the backslash. -/
def isPlainAscii (c : Char) : Bool :=
  0x20 ≤ c.toNat && c.toNat ≤ 0x7E && c != '"' && c != '\\'

/-- The quoted form of one character. -/
def quoteChar (c : Char) : List Char :=
  if isPlainAscii c then [c]
  else if c == '"' then ['\\', '"']
  else if c == '\\' then ['\\', '\\']
  else if c == '\n' then ['\\', 'n']
  else if c == '\r' then ['\\', 'r']
  else if c == '\t' then ['\\', 't']
  else if c.toNat == 0 then ['\\', '0']
  else if isUnprintable c then
    ['\\', 'u', Char.ofNat 0x7B] ++ hexDigits c.toNat ++ [Char.ofNat 0x7D]
  else [c]

/-! ## Texts and lists of texts -/

/-- The text between quotes. -/
def quoted (s : String) : String :=
  String.ofList ('"' :: s.toList.flatMap quoteChar ++ ['"'])

/-- A list of texts, each quoted, between brackets. -/
def quotedList (texts : List String) : String :=
  "[" ++ ", ".intercalate (texts.map quoted) ++ "]"

theorem quoteChar_of_isPlainAscii {c : Char} (h : isPlainAscii c = true) : quoteChar c = [c] := by
  simp [quoteChar, h]

end ExtensionHost
