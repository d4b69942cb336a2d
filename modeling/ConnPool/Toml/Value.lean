/-
  ConnPool.Toml.Value

  Values: strings, numbers, dates, truth values, arrays and inline tables.

  Arrays and inline tables hold values in turn, down to a fixed depth, which is
  what the recursion runs on.
-/

import ConnPool.Toml.Key
import ConnPool.Toml.Number
import ConnPool.Toml.Node

namespace ConnPool
namespace Toml

open Reader

/-- A key path with its last key taken off. -/
def splitPath : List String → Option (List String × String)
  | [] => none
  | [key] => some ([], key)
  | first :: rest => (splitPath rest).map fun (path, key) => (first :: path, key)

/-- A key path, `=`, and a value. -/
def pair (value : Reader Node) : Reader (List String × String × Node) := do
  let (path, key) ← StateT.lift (splitPath (← keyPath))
  char '='
  blanks
  let value ← value
  pure (path, key, value)

/-- A value that holds no others. -/
def scalar : Reader Node :=
  (.text <$> string)
  <|> (.datetime <$> datetime)
  <|> (.float <$> float)
  <|> (.integer <$> integer)
  <|> (do exactly "true".toList; pure (.boolean true))
  <|> (do exactly "false".toList; pure (.boolean false))

/-- An array, given how to read an item.  A comma may follow the last item. -/
def array (value : Reader Node) : Reader Node := do
  char '['
  let items ← sepBy (do filler; let item ← value; filler; pure item) (char ',')
  if items ≠ [] then discard (option (char ','))
  filler
  char ']'
  pure (.array items)

/-- An inline table, given how to read a value. -/
def inlineTable (value : Reader Node) : Reader Node := do
  char '\x7b'
  let pairs ← sepBy (do let p ← pair value; blanks; pure p) (char ',')
  blanks
  char '\x7d'
  let entries ← StateT.lift (Entries.addAll .inline [] pairs)
  pure (.table .inline entries)

/-- A value with at most `depth` levels of arrays and inline tables. -/
def valueWithin : (depth : Nat) → Reader Node
  | 0 => scalar
  | depth + 1 => scalar <|> array (valueWithin depth) <|> inlineTable (valueWithin depth)

/-- A value. -/
def value : Reader Node :=
  valueWithin (depthLimit - 1)

end Toml
end ConnPool
