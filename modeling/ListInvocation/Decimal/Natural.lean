/-!
Contract: natural numbers in decimal digits.

Owns: the decimal digits of a number, digits padded with zeros to a width, and
the number that a run of digits denotes.

Does not own: signs, fractions and exponents.
-/

namespace ListInvocation.Decimal

/-- Whether a character is one of the ten ASCII digits. -/
def isDigit (character : Char) : Bool :=
  '0' ≤ character && character ≤ '9'

def digitValue (character : Char) : Nat :=
  character.toNat - '0'.toNat

/-- The number that a run of digits denotes, most significant digit first. -/
def ofDigits (digits : List Char) : Nat :=
  digits.foldl (fun value digit => value * 10 + digitValue digit) 0

/-- The decimal digits of a number, without leading zeros. -/
def digits (number : Nat) : List Char :=
  Nat.toDigits 10 number

/-- The decimal digits of a number, with leading zeros up to `width` digits. -/
def paddedDigits (width number : Nat) : List Char :=
  let bare := digits number
  List.replicate (width - bare.length) '0' ++ bare

end ListInvocation.Decimal
