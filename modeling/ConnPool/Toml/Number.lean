/-
  ConnPool.Toml.Number

  Integers and floating-point numbers.  Underscores may stand between digits;
  an integer has 64 bits; a decimal integer has no needless zeros in front.
-/

import ConnPool.Decimal.Binary64
import ConnPool.Toml.Text

namespace ConnPool
namespace Toml

open Reader

/-- The greatest integer. -/
def maxInteger : Nat := Nat.pow 2 63 - 1

/-- More digits, each perhaps after an underscore. -/
def moreDigits (isDigit : Char → Bool) : Reader (List Char) :=
  many (do discard (option (char '_')); satisfy isDigit)

/-- Digits, perhaps with underscores between them, which are left out. -/
def digits (isDigit : Char → Bool) : Reader (List Char) := do
  let first ← satisfy isDigit
  let rest ← moreDigits isDigit
  pure (first :: rest)

/-- Whether a number is negative; a sign may be missing. -/
def sign : Reader Bool := do
  match ← option (satisfy fun c => c == '+' || c == '-') with
  | some c => pure (c == '-')
  | none => pure false

/-- The digits of a whole number without needless zeros. -/
def wholeDigits : Reader (List Char) :=
  (do let first ← satisfy fun c => c.isDigit && c != '0'
      let rest ← moreDigits Char.isDigit
      pure (first :: rest))
  <|> (do char '0'; pure ['0'])

/-! ## Integers -/

/-- An integer after a sign that tells its base. -/
def basedInteger (mark : Char) (base : Nat) (isDigit : Char → Bool) : Reader Int := do
  exactly ['0', mark]
  let n := digitsValue base (← digits isDigit)
  guard (n ≤ maxInteger)
  pure n

/-- A decimal integer. -/
def decimalInteger : Reader Int := do
  let negative ← sign
  let n := digitsValue 10 (← wholeDigits)
  guard (n ≤ if negative then maxInteger + 1 else maxInteger)
  pure (if negative then -n else n)

/-- An integer. -/
def integer : Reader Int :=
  basedInteger 'x' 16 isHexDigit
  <|> basedInteger 'o' 8 (fun c => '0' ≤ c && c ≤ '7')
  <|> basedInteger 'b' 2 (fun c => c == '0' || c == '1')
  <|> decimalInteger

/-! ## Floating-point numbers -/

/-- The digits behind the point. -/
def fractionDigits : Reader (List Char) := do
  char '.'
  digits Char.isDigit

/-- The power of ten behind an `e`. -/
def exponent : Reader Int := do
  discard (satisfy fun c => c == 'e' || c == 'E')
  let negative ← sign
  let n := digitsValue 10 (← digits Char.isDigit)
  pure (if negative then -n else n)

/-- What makes a number a floating-point one: a fraction, an exponent, or
    both. -/
def floatTail : Reader (List Char × Int) :=
  (do let e ← exponent
      pure ([], e))
  <|> (do let fraction ← fractionDigits
          let e ← option exponent
          pure (fraction, e.getD 0))

/-- A number with a fraction or an exponent.  One above the range is refused,
    one below it is negative infinity. -/
def decimalFloat : Reader Decimal.Binary64 := do
  let negative ← sign
  let whole ← wholeDigits
  let (fraction, e) ← floatTail
  let x := Decimal.Binary64.ofDecimal negative (digitsValue 10 (whole ++ fraction))
    (e - fraction.length)
  guard (!x.isPosInfinite)
  pure x

/-- Infinity, or what is not a number. -/
def specialFloat : Reader Decimal.Binary64 := do
  let negative ← sign
  (do exactly ['i', 'n', 'f']; pure (.infinite negative))
    <|> (do exactly ['n', 'a', 'n']; pure .nan)

/-- A floating-point number. -/
def float : Reader Decimal.Binary64 :=
  decimalFloat <|> specialFloat

end Toml
end ConnPool
