/-
  ConnPool.Toml.Document

  Whole documents.  A document is read in two steps: its text is a row of
  expressions, and the expressions build the tables.

  A heading opens a section; the values up to the next heading belong to it.
-/

import ConnPool.Toml.Value

namespace ConnPool
namespace Toml

open Reader

/-! ## Expressions -/

/-- What opens a section. -/
inductive Heading where
  /-- The start of the document. -/
  | top
  /-- The header of a table. -/
  | table (path : List String) (key : String)
  /-- The header of a further table of an array of tables. -/
  | element (path : List String) (key : String)

/-- One expression of a document. -/
inductive Expression where
  | nothing
  /-- A value under a key. -/
  | pair (path : List String) (key : String) (value : Node)
  | heading (heading : Heading)

/-- The key path of a header, between its brackets. -/
def header (opening closing : List Char) : Reader (List String × String) := do
  exactly opening
  let keys ← keyPath
  exactly closing
  lineRest
  StateT.lift (splitPath keys)

/-- An expression with the end of its line. -/
def expression : Reader Expression :=
  (do newline; pure .nothing)
  <|> (do comment; lineEnd; pure .nothing)
  <|> (do let (path, key) ← header ['[', '['] [']', ']']
          pure (.heading (.element path key)))
  <|> (do let (path, key) ← header ['['] [']']
          pure (.heading (.table path key)))
  <|> (do let (path, key, value) ← pair value
          lineRest
          pure (.pair path key value))

/-- The expressions of a document.  A byte order mark may come first. -/
def expressions : Reader (List Expression) := do
  discard (option (char '\uFEFF'))
  blanks
  let found ← many (do let e ← expression; blanks; pure e)
  atEnd
  pure found

/-! ## Sections -/

/-- A heading and the values that belong to it. -/
structure Section where
  heading : Heading
  pairs : List (List String × String × Node)

/-- Cuts expressions into sections; the first goes on where `current` ends. -/
def sectionsFrom (current : Section) : List Expression → List Section
  | [] => [current]
  | .nothing :: rest => sectionsFrom current rest
  | .pair path key value :: rest =>
    sectionsFrom { current with pairs := current.pairs ++ [(path, key, value)] } rest
  | .heading heading :: rest => current :: sectionsFrom ⟨heading, []⟩ rest

/-- Adds a section to the tables of a document. -/
def addSection (entries : Entries) (s : Section) : Option Entries :=
  match s.heading with
  | .top => Entries.addAll .explicit entries s.pairs
  | .table path key => entries.addTable path key s.pairs
  | .element path key => entries.addElement path key s.pairs

/-- The tables of a document, if the text is one. -/
def parse? (text : String) : Option Entries := do
  let (found, _) ← expressions.run text.toList
  (sectionsFrom ⟨.top, []⟩ found).foldlM addSection []

end Toml
end ConnPool
