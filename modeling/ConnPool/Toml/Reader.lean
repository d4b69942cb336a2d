/-
  ConnPool.Toml.Reader

  Readers of characters.  A reader takes some characters off the front of a
  text and answers a value, or refuses.  A choice starts its second reader
  where the first one started.

  Repetition is bounded by the length of the text that is left, which no
  repetition of readers that take something can exceed.
-/

namespace ConnPool
namespace Toml

/-- A reader takes characters off the front of a text, or refuses. -/
abbrev Reader := StateT (List Char) Option

namespace Reader

variable {α : Type}

/-- One character of a class. -/
def satisfy (p : Char → Bool) : Reader Char := fun
  | c :: rest => if p c then some (c, rest) else none
  | [] => none

/-- One given character. -/
def char (c : Char) : Reader Unit :=
  discard (satisfy (· == c))

/-- A given text. -/
def exactly : List Char → Reader Unit
  | [] => pure ()
  | c :: rest => do char c; exactly rest

/-- The longest run of characters of a class. -/
def span (p : Char → Bool) : Reader (List Char) := fun text =>
  some (text.takeWhile p, text.dropWhile p)

/-- The longest run of characters of a class, which may not be empty. -/
def span1 (p : Char → Bool) : Reader (List Char) := do
  let chars ← span p
  guard (chars ≠ [])
  pure chars

/-- So many characters of a class. -/
def times (p : Char → Bool) : Nat → Reader (List Char)
  | 0 => pure []
  | n + 1 => do
    let c ← satisfy p
    let rest ← times p n
    pure (c :: rest)

/-- The end of the text. -/
def atEnd : Reader Unit := do
  guard ((← get) = [])

/-- A value if the reader finds one. -/
def option (r : Reader α) : Reader (Option α) :=
  (some <$> r) <|> pure none

/-- Values one after another, at most so many. -/
def atMost (r : Reader α) : Nat → Reader (List α)
  | 0 => pure []
  | n + 1 =>
    (do let x ← r
        let rest ← atMost r n
        pure (x :: rest))
    <|> pure []

/-- Values one after another, as long as the reader finds some. -/
def many (r : Reader α) : Reader (List α) := do
  atMost r (← get).length

/-- Values with a separator between each two, at least one. -/
def sepBy1 (r : Reader α) (separator : Reader Unit) : Reader (List α) := do
  let first ← r
  let rest ← many (do separator; r)
  pure (first :: rest)

/-- Values with a separator between each two. -/
def sepBy (r : Reader α) (separator : Reader Unit) : Reader (List α) :=
  sepBy1 r separator <|> pure []

end Reader

end Toml
end ConnPool
