import ListInvocation.Binary64.Basic
import ListInvocation.Decimal.Natural

/-!
Contract: reading of decimal numbers.

Owns: the grammar of signed integers, of signed decimals with an optional fraction
and exponent, and the floating-point number nearest to such a decimal.

Does not own: the words for numbers that are not finite, or blanks around a number.
-/

namespace ListInvocation.Decimal

/-- Splits an optional sign off, and tells whether it was a minus. -/
def splitSign : List Char → Bool × List Char
  | '-' :: rest => (true, rest)
  | '+' :: rest => (false, rest)
  | text => (false, text)

/-- Reads a signed run of digits; at least one digit is required. -/
def readInteger? (text : List Char) : Option Int :=
  let (negative, rest) := splitSign text
  if rest.isEmpty || !rest.all isDigit then none
  else if negative then some (-(ofDigits rest : Int))
  else some (ofDigits rest : Int)

def toInt64? (number : Int) : Option Int64 :=
  if Int64.minValue.toInt ≤ number ∧ number ≤ Int64.maxValue.toInt then
    some (Int64.ofInt number)
  else
    none

/-- Reads a signed run of digits that fits 64 bits. -/
def readInt64? (text : List Char) : Option Int64 :=
  readInteger? text >>= toInt64?

/-- A decimal `significand * 10 ^ exponent` with a sign. -/
structure Scientific where
  negative : Bool
  significand : Nat
  exponent : Int
deriving Repr, DecidableEq

def readExponent? : List Char → Option Int
  | [] => some 0
  | letter :: rest => if letter = 'e' ∨ letter = 'E' then readInteger? rest else none

/-- Reads a signed decimal: digits, an optional point with further digits, at least one
digit in all, and an optional exponent. -/
def readScientific? (text : List Char) : Option Scientific :=
  let (negative, rest) := splitSign text
  let whole := rest.takeWhile isDigit
  let rest := rest.dropWhile isDigit
  let (fraction, rest) :=
    match rest with
    | '.' :: rest => (rest.takeWhile isDigit, rest.dropWhile isDigit)
    | rest => ([], rest)
  if whole.isEmpty && fraction.isEmpty then none
  else
    match readExponent? rest with
    | some exponent =>
        some ⟨negative, ofDigits (whole ++ fraction), exponent - fraction.length⟩
    | none => none

/-- Decimals from this power of ten on are infinite. -/
def greatestDecimalMagnitude : Int := 310

/-- Decimals below this power of ten are zero. -/
def leastDecimalMagnitude : Int := -330

def Scientific.toBinary64 (decimal : Scientific) : Binary64 :=
  let magnitude := ((digits decimal.significand).length : Int) + decimal.exponent
  if decimal.significand = 0 ∨ magnitude < leastDecimalMagnitude then
    .ofMagnitude decimal.negative 0
  else if greatestDecimalMagnitude < magnitude then
    .ofMagnitude decimal.negative Binary64.infinityMagnitude
  else
    .ofRatio decimal.negative (decimal.significand * Nat.pow 10 decimal.exponent.toNat)
      (Nat.pow 10 (-decimal.exponent).toNat)

def readBinary64? (text : List Char) : Option Binary64 :=
  (readScientific? text).map Scientific.toBinary64

end ListInvocation.Decimal
