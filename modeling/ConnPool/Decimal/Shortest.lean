/-
  ConnPool.Decimal.Shortest

  The fewest decimal digits that tell a floating-point number apart from all
  others, and the positional notation that writes them.

  The decimals that are read back as a given number fill an interval around
  it.  The notation takes the coarsest decimal grid that has a point in the
  interval, and of the points there the one nearest to the number; of two that
  are equally near it takes the greater.
-/

import ConnPool.Decimal.Binary64

namespace ConnPool
namespace Decimal

/-- The decimals that are read back as one number, all in units of
    `2 ^ exponent`: the number, the ends of the interval, and whether the ends
    belong to it. -/
structure Neighbourhood where
  value : Nat
  low : Nat
  high : Nat
  exponent : Int
  closed : Bool

/-- The neighbourhood of a positive number.  Below a power of two the numbers
    lie twice as close. -/
def neighbourhood (mantissa : Nat) (exponent : Int) : Neighbourhood where
  value := 4 * mantissa
  low := if mantissa = Nat.pow 2 52 ∧ exponent > Binary64.minExponent then 4 * mantissa - 1
    else 4 * mantissa - 2
  high := 4 * mantissa + 2
  exponent := exponent - 2
  closed := mantissa % 2 = 0

namespace Neighbourhood

/-- `units * 2 ^ exponent / 10 ^ power` as one quotient. -/
def onGrid (hood : Neighbourhood) (units : Nat) (power : Int) : Nat × Nat :=
  Binary64.scaled (if power ≥ 0 then units else units * Nat.pow 10 (-power).toNat)
    (if power ≥ 0 then Nat.pow 10 power.toNat else 1) (-hood.exponent)

/-- Whether the point `digits` of the grid of `10 ^ power` lies in the
    interval. -/
def covers (hood : Neighbourhood) (digits : Nat) (power : Int) : Bool :=
  let (low, den) := hood.onGrid hood.low power
  let (high, _) := hood.onGrid hood.high power
  if hood.closed then decide (low ≤ digits * den) && decide (digits * den ≤ high)
  else decide (low < digits * den) && decide (digits * den < high)

/-- The point of a grid that writes the number, if one does.  Only the two
    points next to the number can be nearest. -/
def pointOn? (hood : Neighbourhood) (power : Int) : Option Nat :=
  let (value, den) := hood.onGrid hood.value power
  let below := value / den
  let above := below + 1
  match hood.covers below power, hood.covers above power with
  | true, true => some (if value - below * den < above * den - value then below else above)
  | true, false => some below
  | false, true => some above
  | false, false => none

/-- Tries grids from `10 ^ power` on downwards, at most `tries` of them. -/
def search (hood : Neighbourhood) : (tries : Nat) → (power : Int) → Nat × Int
  | 0, power => (0, power)
  | tries + 1, power =>
    match hood.pointOn? power with
    | some digits => (digits, power)
    | none => hood.search tries (power - 1)

end Neighbourhood

/-- The digits and the power of ten that write a positive number.  Seventeen
    digits always suffice, and the search starts above the first. -/
def shortest (mantissa : Nat) (exponent : Int) : Nat × Int :=
  let hood := neighbourhood mantissa exponent
  let (num, den) := hood.onGrid hood.high 0
  let start : Int :=
    if num / den > 0 then (Binary64.digitCount (num / den) : Int)
    else 1 - (Binary64.digitCount (den / num) : Int) + 1
  hood.search 20 start

/-- `digits * 10 ^ power` in positional notation, with at least one digit on
    either side of the point. -/
def positional (digits : Nat) (power : Int) : String :=
  let text := digits.repr.toList
  if power ≥ 0 then
    String.ofList (text ++ List.replicate power.toNat '0' ++ ['.', '0'])
  else
    let places := (-power).toNat
    let padded := List.replicate (places + 1 - text.length) '0' ++ text
    let whole := padded.length - places
    String.ofList (padded.take whole ++ '.' :: padded.drop whole)

/-- A floating-point number in its shortest positional notation. -/
def Binary64.text : Binary64 → String
  | finite negative mantissa exponent =>
    let sign := if negative then "-" else ""
    if mantissa = 0 then sign ++ "0.0"
    else
      let (digits, power) := shortest mantissa exponent
      sign ++ positional digits power
  | infinite negative => if negative then "-inf" else "inf"
  | nan => "NaN"

/-! ## Written out -/

example : (Binary64.ofDecimal false 15 (-1)).text = "1.5" := by decide +kernel

example : (Binary64.ofDecimal true 1 (-7)).text = "-0.0000001" := by decide +kernel

example : (Binary64.ofDecimal false 1 16).text = "10000000000000000.0" := by decide +kernel

/-- Seventeen digits, where sixteen would be read as another number. -/
example : (Binary64.ofDecimal false 30000000000000004 (-17)).text = "0.30000000000000004" := by
  decide +kernel

end Decimal
end ConnPool
