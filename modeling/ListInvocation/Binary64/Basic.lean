/-!
Contract: the 64-bit floating-point numbers, as the integers that their bits spell.

A finite number is `significand * 2 ^ exponent`, where the exponent is at least
`minExponent` and the significand has at most 53 bits.

Owns:
- the type `Binary64` and the reading of its three fields;
- the partial order of the numbers, in which a NaN is unordered;
- rounding of a ratio to the nearest number, ties to the even significand.

Does not own: decimal text.
-/

namespace ListInvocation

/-- A floating-point number given by its 64 bits. -/
structure Binary64 where
  bits : UInt64
deriving Repr, DecidableEq, Inhabited

namespace Binary64

/-- The exponent of the least significant bit of the smallest numbers. -/
def minExponent : Int := -1074

/-- The weight of the exponent field. -/
def exponentUnit : Nat := Nat.pow 2 52

def signUnit : Nat := Nat.pow 2 63

/-- The bits of positive infinity, above those of every positive finite number. -/
def infinityMagnitude : Nat := 2047 * exponentUnit

def isNegative (number : Binary64) : Bool :=
  signUnit ≤ number.bits.toNat

/-- The bits without the sign, which grow with the absolute value. -/
def magnitude (number : Binary64) : Nat :=
  number.bits.toNat % signUnit

def isNaN (number : Binary64) : Bool :=
  infinityMagnitude < number.magnitude

def isInfinite (number : Binary64) : Bool :=
  number.magnitude == infinityMagnitude

/-- The integer that scales a finite number's power of two. -/
def significand (number : Binary64) : Nat :=
  if number.magnitude < exponentUnit then number.magnitude
  else number.magnitude % exponentUnit + exponentUnit

/-- The power of two that a finite number's significand is scaled by. -/
def exponent (number : Binary64) : Int :=
  if number.magnitude < exponentUnit then minExponent
  else minExponent + (number.magnitude / exponentUnit - 1 : Nat)

def ofMagnitude (negative : Bool) (magnitude : Nat) : Binary64 :=
  ⟨UInt64.ofNat (if negative then signUnit + magnitude else magnitude)⟩

def nan : Binary64 := ofMagnitude false (infinityMagnitude + exponentUnit / 2)

def infinity : Binary64 := ofMagnitude false infinityMagnitude

def negativeInfinity : Binary64 := ofMagnitude true infinityMagnitude

/-- An integer that orders all numbers but the NaNs; both zeros have rank zero. -/
def rank (number : Binary64) : Int :=
  if number.isNegative then -(number.magnitude : Int) else number.magnitude

/-- The order of two numbers, none when one of them is a NaN. -/
def compare? (left right : Binary64) : Option Ordering :=
  if left.isNaN || right.isNaN then none else some (compare left.rank right.rank)

/-- Numeric equality: a NaN differs from itself and the two zeros are equal. -/
def numericallyEqual (left right : Binary64) : Bool :=
  left.compare? right == some .eq

/-- The quotient rounded to the nearest natural number, a tie to the even one. -/
def roundQuotient (dividend divisor : Nat) : Nat :=
  let quotient := dividend / divisor
  match compare (2 * (dividend % divisor)) divisor with
  | .lt => quotient
  | .gt => quotient + 1
  | .eq => quotient + quotient % 2

/-- The greatest power of two that is at most the ratio of two positive numbers. -/
def floorLog2Ratio (numerator denominator : Nat) : Int :=
  let estimate : Int := (numerator.log2 : Int) - denominator.log2
  if numerator * Nat.pow 2 (-estimate).toNat < denominator * Nat.pow 2 estimate.toNat then
    estimate - 1
  else
    estimate

/-- The magnitude nearest to a positive ratio; from halfway above the greatest finite
number on it is infinite. -/
def nearestMagnitude (numerator denominator : Nat) : Nat :=
  let power := max minExponent (floorLog2Ratio numerator denominator - 52)
  let scaled :=
    roundQuotient (numerator * Nat.pow 2 (-power).toNat) (denominator * Nat.pow 2 power.toNat)
  min infinityMagnitude ((power - minExponent).toNat * exponentUnit + scaled)

def ofRatio (negative : Bool) (numerator denominator : Nat) : Binary64 :=
  ofMagnitude negative
    (if numerator = 0 then 0 else nearestMagnitude numerator denominator)

def ofInt (number : Int) : Binary64 :=
  ofRatio (number < 0) number.natAbs 1

end Binary64

end ListInvocation
