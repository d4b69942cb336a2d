/-
  ConnPool.Toml.Text

  Strings: basic ones with escapes, literal ones without, and the two kinds
  that span lines.

  In a string that spans lines a line end right after the opening is dropped,
  every line end is read as a line feed, and one or two quotes may stand
  anywhere, even right before the closing three.
-/

import ConnPool.Toml.Layout

namespace ConnPool
namespace Toml

open Reader

/-! ## Escapes -/

/-- The value of a hexadecimal digit. -/
def hexValue (c : Char) : Nat :=
  if c.isDigit then c.toNat - '0'.toNat
  else if 'a' ≤ c then c.toNat - 'a'.toNat + 10
  else c.toNat - 'A'.toNat + 10

/-- Whether a character is a hexadecimal digit. -/
def isHexDigit (c : Char) : Bool :=
  c.isDigit || ('a' ≤ c && c ≤ 'f') || ('A' ≤ c && c ≤ 'F')

/-- The number that digits write in a base. -/
def digitsValue (base : Nat) (digits : List Char) : Nat :=
  digits.foldl (fun n c => n * base + hexValue c) 0

/-- The character of a code written with so many hexadecimal digits. -/
def codePoint (width : Nat) : Reader Char := do
  let code := digitsValue 16 (← times isHexDigit width)
  guard (decide code.isValidChar)
  pure (Char.ofNat code)

/-- An escape. -/
def escape : Reader Char := do
  char '\\'
  match ← satisfy fun _ => true with
  | 'b' => pure '\x08'
  | 't' => pure '\t'
  | 'n' => pure '\n'
  | 'f' => pure '\x0C'
  | 'r' => pure '\r'
  | '"' => pure '"'
  | '\\' => pure '\\'
  | 'u' => codePoint 4
  | 'U' => codePoint 8
  | _ => failure

/-! ## On one line -/

/-- Characters that stand for themselves in a basic string. -/
def isBasicChar (c : Char) : Bool :=
  isCommentChar c && c != '"' && c != '\\'

/-- Characters of a literal string. -/
def isLiteralChar (c : Char) : Bool :=
  isCommentChar c && c != '\''

/-- A basic string. -/
def basicString : Reader (List Char) := do
  char '"'
  let parts ← many (span1 isBasicChar <|> (do let c ← escape; pure [c]))
  char '"'
  pure parts.flatten

/-- A literal string. -/
def literalString : Reader (List Char) := do
  char '\''
  let chars ← span isLiteralChar
  char '\''
  pure chars

/-! ## On several lines -/

/-- A line end inside a string, which is read as a line feed. -/
def innerNewline : Reader (List Char) := do
  newline
  pure ['\n']

/-- One or two quotes that do not close the string, because something else
    comes after them. -/
def innerQuotes (quote : Char) : Reader (List Char) := do
  let quotes ← span1 (· == quote)
  guard (quotes.length ≤ 2)
  pure quotes

/-- The quotes at the end of a string: three that close it, after up to two
    that belong to it. -/
def closingQuotes (quote : Char) : Reader (List Char) := do
  let quotes ← span (· == quote)
  guard (3 ≤ quotes.length && quotes.length ≤ 5)
  pure (quotes.drop 3)

/-- A backslash at the end of a line, which drops the line end and all blanks
    and line ends after it. -/
def continuation : Reader (List Char) := do
  char '\\'
  blanks
  newline
  discard (many (discard (span1 isBlank) <|> newline))
  pure []

/-- A string on several lines: its quote, and how to read a part of it. -/
def multiline (quote : Char) (part : Reader (List Char)) : Reader (List Char) := do
  exactly [quote, quote, quote]
  discard (option newline)
  let parts ← many (part <|> innerNewline <|> innerQuotes quote)
  let quotes ← closingQuotes quote
  pure (parts.flatten ++ quotes)

/-- A basic string on several lines. -/
def multilineBasic : Reader (List Char) :=
  multiline '"' (span1 isBasicChar <|> continuation <|> (do let c ← escape; pure [c]))

/-- A literal string on several lines. -/
def multilineLiteral : Reader (List Char) :=
  multiline '\'' (span1 isLiteralChar)

/-- A string of any kind. -/
def string : Reader String :=
  String.ofList <$> (multilineBasic <|> basicString <|> multilineLiteral <|> literalString)

end Toml
end ConnPool
