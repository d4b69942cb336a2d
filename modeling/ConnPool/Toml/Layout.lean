/-
  ConnPool.Toml.Layout

  What stands between the parts of a document: blanks, line ends, comments.
-/

import ConnPool.Toml.Reader

namespace ConnPool
namespace Toml

open Reader

/-- Blanks within a line. -/
def isBlank (c : Char) : Bool :=
  c == ' ' || c == '\t'

/-- Whether a character is outside ASCII, where every character is allowed. -/
def isBeyondAscii (c : Char) : Bool :=
  c.toNat ≥ 0x80

/-- Characters of a comment: no control characters but the tab. -/
def isCommentChar (c : Char) : Bool :=
  c == '\t' || (0x20 ≤ c.toNat && c.toNat ≤ 0x7E) || isBeyondAscii c

/-- Blanks, perhaps none. -/
def blanks : Reader Unit :=
  discard (span isBlank)

/-- A line end: a line feed, perhaps after a carriage return. -/
def newline : Reader Unit :=
  char '\n' <|> exactly ['\r', '\n']

/-- A comment, up to the end of its line. -/
def comment : Reader Unit := do
  char '#'
  discard (span isCommentChar)

/-- The end of a line or of the document. -/
def lineEnd : Reader Unit :=
  newline <|> atEnd

/-- What may follow an expression on its line. -/
def lineRest : Reader Unit := do
  blanks
  discard (option comment)
  lineEnd

/-- What may stand between the items of an array: blanks, line ends and
    comments. -/
def filler : Reader Unit :=
  discard (many (discard (span1 isBlank) <|> newline <|> comment))

end Toml
end ConnPool
