/-
  ConnPool.Toml.Node

  The contents of a document, and the rules by which headers and dotted keys
  build nested tables.

  A table remembers how it came about, because that decides what may still be
  added to it.  Nothing is defined twice: a header opens a table that is new or
  so far only implied by other headers, and a dotted key extends only tables
  that are implied by headers or were themselves made by dotted keys.
-/

import ConnPool.Decimal.Binary64
import ConnPool.Toml.Datetime

namespace ConnPool
namespace Toml

/-- How a table came about. -/
inductive TableKind where
  /-- By a header of its own, or as the whole document. -/
  | explicit
  /-- By a header of a table inside it. -/
  | implicit
  /-- By a dotted key. -/
  | dotted
  /-- By an inline table, to which nothing can be added. -/
  | inline
  deriving DecidableEq

/-- What a key of a document stands for.  The entries of a table keep the order
    in which they were made. -/
inductive Node where
  | text (value : String)
  | integer (value : Int)
  | float (value : Decimal.Binary64)
  | boolean (value : Bool)
  | datetime (value : Datetime)
  | array (items : List Node)
  | table (kind : TableKind) (entries : List (String × Node))
  /-- An array of tables, each opened by a header. -/
  | tables (items : List (List (String × Node)))

/-- Keys with what they stand for, in the order in which they were made. -/
abbrev Entries := List (String × Node)

namespace Entries

/-- Puts another node in the place of the one under `key`. -/
def replace (entries : Entries) (key : String) (node : Node) : Entries :=
  entries.map fun (k, old) => (k, if k = key then node else old)

/-- Strikes the entry of `key`. -/
def erase (entries : Entries) (key : String) : Entries :=
  entries.filter fun (k, _) => k ≠ key

/-- Whether a table can be extended from outside: with a dotted key (`dotted`),
    or with a header of a table inside it. -/
def canExtend (dotted : Bool) : TableKind → Bool
  | .implicit | .dotted => true
  | .explicit => !dotted
  | .inline => false

/-- Changes the entries of the table at the end of a path.  Tables that are
    missing on the way are made, and an array of tables stands for its last
    table. -/
def changeAt (dotted : Bool) (change : TableKind → Entries → Option Entries) :
    (path : List String) → TableKind → Entries → Option Entries
  | [], kind, entries => change kind entries
  | key :: path, _, entries =>
    match entries.lookup key with
    | none => do
      let made : TableKind := if dotted then .dotted else .implicit
      let inner ← changeAt dotted change path made []
      pure (entries ++ [(key, .table made inner)])
    | some (.table kind inner) =>
      if canExtend dotted kind then do
        let inner ← changeAt dotted change path kind inner
        pure (replace entries key (.table kind inner))
      else none
    | some (.tables items) => do
      let last ← items.getLast?
      let last ← changeAt dotted change path .explicit last
      pure (replace entries key (.tables (items.dropLast ++ [last])))
    | some _ => none

/-- Adds a value under a path of keys.  Behind a dot only tables made by dotted
    keys take values. -/
def add (kind : TableKind) (entries : Entries) (path : List String) (key : String)
    (value : Node) : Option Entries :=
  changeAt true (fun kind entries =>
      if (path ≠ [] ∧ kind ≠ .dotted) ∨ (entries.lookup key).isSome then none
      else some (entries ++ [(key, value)]))
    path kind entries

/-- Adds values in order. -/
def addAll (kind : TableKind) (entries : Entries) (pairs : List (List String × String × Node)) :
    Option Entries :=
  pairs.foldlM (fun entries (path, key, value) => add kind entries path key value) entries

/-- Opens the table of a header and adds values to it.  The table must be new or
    implied so far, and comes last among its neighbours. -/
def addTable (entries : Entries) (path : List String) (key : String)
    (pairs : List (List String × String × Node)) : Option Entries :=
  changeAt false (fun _ entries => do
      let before ← match entries.lookup key with
        | none => some []
        | some (.table .implicit inner) => some inner
        | some _ => none
      let inner ← addAll .explicit before pairs
      pure (erase entries key ++ [(key, .table .explicit inner)]))
    path .explicit entries

/-- Opens a further table of an array of tables and adds values to it. -/
def addElement (entries : Entries) (path : List String) (key : String)
    (pairs : List (List String × String × Node)) : Option Entries :=
  changeAt false (fun _ entries => do
      let inner ← addAll .explicit [] pairs
      match entries.lookup key with
      | none => pure (entries ++ [(key, .tables [inner])])
      | some (.tables items) => pure (replace entries key (.tables (items ++ [inner])))
      | some _ => none)
    path .explicit entries

end Entries

end Toml
end ConnPool
