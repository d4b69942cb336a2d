/-
  ConnPool.Toml.Key

  Keys: bare or quoted, and several with dots between them, which name a path
  into nested tables.
-/

import ConnPool.Toml.Text

namespace ConnPool
namespace Toml

open Reader

/-- How deep keys, arrays and inline tables may nest: fewer levels than this. -/
def depthLimit : Nat := 80

/-- Characters of a bare key. -/
def isBareChar (c : Char) : Bool :=
  c.isAlphanum || c == '_' || c == '-'

/-- One key. -/
def simpleKey : Reader String :=
  String.ofList <$> (span1 isBareChar <|> basicString <|> literalString)

/-- Keys with dots between them. -/
def keyPath : Reader (List String) := do
  let keys ← sepBy1 (do blanks; let key ← simpleKey; blanks; pure key) (char '.')
  guard (keys.length < depthLimit)
  pure keys

end Toml
end ConnPool
