/-
  ConnPool.Decimal.Binary64

  Binary floating-point numbers of 64 bits, as exact values, and reading them
  from decimal notation.

  A finite number is `mantissa * 2 ^ exponent` with a mantissa below `2 ^ 53`
  and an exponent of at least -1074; one that could have a smaller exponent
  has it, so each number has one representation.  A decimal is rounded to the
  nearest number, a tie going to the even mantissa, in exact arithmetic.
-/

namespace ConnPool
namespace Decimal

/-- A 64-bit floating-point number. -/
inductive Binary64 where
  | finite (negative : Bool) (mantissa : Nat) (exponent : Int)
  | infinite (negative : Bool)
  | nan
  deriving DecidableEq

namespace Binary64

/-- The least exponent. -/
def minExponent : Int := -1074

/-- The exponent of the greatest numbers. -/
def maxExponent : Int := 971

/-- Division to the nearest whole number, a tie going to the even one. -/
def divNearest (num den : Nat) : Nat :=
  let quotient := num / den
  let twice := 2 * (num % den)
  if twice > den ∨ (twice = den ∧ quotient % 2 = 1) then quotient + 1 else quotient

/-- `num / den / 2 ^ exponent` as one quotient. -/
def scaled (num den : Nat) (exponent : Int) : Nat × Nat :=
  if exponent ≥ 0 then (num, den * Nat.pow 2 exponent.toNat)
  else (num * Nat.pow 2 (-exponent).toNat, den)

/-- The exponent that leaves a quotient of 53 bits, or the least one. -/
def exponentFor (num den : Nat) : Int :=
  let guess : Int := (num.log2 : Int) - (den.log2 : Int) - 52
  let (n, d) := scaled num den guess
  max minExponent (if n / d < Nat.pow 2 52 then guess - 1 else guess)

/-- The number nearest to a positive quotient. -/
def ofQuotient (negative : Bool) (num den : Nat) : Binary64 :=
  let exponent := exponentFor num den
  let (n, d) := scaled num den exponent
  let mantissa := divNearest n d
  let (mantissa, exponent) :=
    if mantissa = Nat.pow 2 53 then (Nat.pow 2 52, exponent + 1) else (mantissa, exponent)
  if exponent > maxExponent then infinite negative else finite negative mantissa exponent

/-- How many decimal digits a number has; none for zero. -/
def digitCount (n : Nat) : Nat :=
  if n = 0 then 0 else n.repr.length

/-- The number nearest to `digits * 10 ^ exponent`.  Beyond the ends of the
    range the answer is known without arithmetic. -/
def ofDecimal (negative : Bool) (digits : Nat) (exponent : Int) : Binary64 :=
  let magnitude : Int := digitCount digits + exponent
  if digits = 0 ∨ magnitude < -330 then finite negative 0 minExponent
  else if magnitude > 310 then infinite negative
  else if exponent ≥ 0 then ofQuotient negative (digits * Nat.pow 10 exponent.toNat) 1
  else ofQuotient negative digits (Nat.pow 10 (-exponent).toNat)

/-- Whether the number is positive infinity. -/
def isPosInfinite : Binary64 → Bool
  | infinite negative => !negative
  | _ => false

end Binary64

end Decimal
end ConnPool
