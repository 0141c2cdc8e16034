import ListInvocation.Binary64.Basic
import ListInvocation.Decimal.Natural

/-!
Contract: the shortest decimal that reads back as a floating-point number.

Around each finite number lies the interval of reals that round to it; its ends
belong to it when the significand is even. For one, two, three and more digits
the two neighbours of the number on that decimal grid are tried; the first grid
with a neighbour in the interval gives the digits, of two neighbours the nearer,
and of two equally near ones the upper.

Owns: `shortest` and the positional text of a decimal.

Does not own: signs, and the names of the numbers that are not finite.
-/

namespace ListInvocation.Binary64

/-- A decimal `digits * 10 ^ exponent`. -/
structure Decimal where
  digits : Nat
  exponent : Int
deriving Repr, DecidableEq

/-- The interval of reals that round to a positive number, in quarters of the unit of
its last place, and the size of such a quarter as a ratio. -/
structure Interval where
  lower : Nat
  centre : Nat
  upper : Nat
  closed : Bool
  numerator : Nat
  denominator : Nat
deriving Repr

/-- The interval of a positive finite number. Below a power of two the neighbours are
half as far away as above it. -/
def interval (number : Binary64) : Interval :=
  let significand := number.significand
  let power := number.exponent - 2
  let below :=
    if significand = exponentUnit ∧ minExponent < number.exponent then 1 else 2
  { lower := 4 * significand - below
    centre := 4 * significand
    upper := 4 * significand + 2
    closed := significand % 2 == 0
    numerator := Nat.pow 2 power.toNat
    denominator := Nat.pow 2 (-power).toNat }

/-- The least power of ten above a positive ratio. -/
def decimalMagnitude (numerator denominator : Nat) : Int :=
  if denominator ≤ numerator then
    (ListInvocation.Decimal.digits (numerator / denominator)).length
  else
    1 - ((ListInvocation.Decimal.digits ((denominator - 1) / numerator)).length : Int)

/-- Whether the ratio lies in an interval that is measured in the same quarters. -/
def Interval.contains (interval : Interval) (numerator denominator : Nat) : Bool :=
  let lower := interval.lower * interval.numerator * denominator
  let upper := interval.upper * interval.numerator * denominator
  let point := numerator * interval.denominator
  if interval.closed then lower ≤ point && point ≤ upper
  else lower < point && point < upper

/-- The better neighbour of the centre on the grid of multiples of `10 ^ step`, if one
of the two lies in the interval. -/
def Interval.neighbour? (interval : Interval) (step : Int) : Option Nat :=
  let scale := Nat.pow 10 step.toNat
  let divisor := Nat.pow 10 (-step).toNat
  let point := interval.centre * interval.numerator * divisor
  let unit := interval.denominator * scale
  let below := point / unit
  let inside (candidate : Nat) : Bool := interval.contains (candidate * scale) divisor
  match inside below, inside (below + 1) with
  | true, true => some (if 2 * (point % unit) < unit then below else below + 1)
  | true, false => some below
  | false, true => some (below + 1)
  | false, false => none

/-- Tries ever finer decimal grids, the next one with steps of `10 ^ step`. -/
def Interval.search (interval : Interval) : (attempts : Nat) → (step : Int) → Decimal
  | 0, step => ⟨0, step⟩
  | attempts + 1, step =>
      match interval.neighbour? step with
      | some digits => ⟨digits, step⟩
      | none => interval.search attempts (step - 1)

/-- The number of digits that always suffice. -/
def maxShortestDigits : Nat := 17

/-- The shortest decimal in the interval of a positive finite number. -/
def shortest (number : Binary64) : Decimal :=
  let interval := number.interval
  let magnitude :=
    decimalMagnitude (interval.centre * interval.numerator) interval.denominator
  interval.search maxShortestDigits (magnitude - 1)

/-- A decimal in positional notation: no exponent, no trailing zeros after the point
and no point without a fraction. -/
def Decimal.positional (separator : List Char) (decimal : Decimal) : List Char :=
  let written := ListInvocation.Decimal.digits decimal.digits
  let kept := (written.reverse.dropWhile (· == '0')).reverse
  let point := (written.length : Int) + decimal.exponent
  if kept.isEmpty then ['0']
  else if point ≤ 0 then
    '0' :: separator ++ List.replicate (-point).toNat '0' ++ kept
  else if kept.length ≤ point.toNat then
    kept ++ List.replicate (point.toNat - kept.length) '0'
  else
    kept.take point.toNat ++ separator ++ kept.drop point.toNat

end ListInvocation.Binary64
