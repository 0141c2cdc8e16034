import ListInvocation.Decimal.Natural

/-!
Contract: natural numbers in hexadecimal digits.

Owns: the value of a digit in either case, and of a run of digits.

Does not own: how many digits a grammar allows.
-/

namespace ListInvocation.Text

def hexValue? (character : Char) : Option Nat :=
  if Decimal.isDigit character then some (Decimal.digitValue character)
  else if 'a' ≤ character ∧ character ≤ 'f' then some (character.toNat - 'a'.toNat + 10)
  else if 'A' ≤ character ∧ character ≤ 'F' then some (character.toNat - 'A'.toNat + 10)
  else none

def isHexDigit (character : Char) : Bool :=
  (hexValue? character).isSome

def ofHexDigits? (digits : List Char) : Option Nat :=
  digits.foldlM (fun value digit => (hexValue? digit).map fun next => value * 16 + next) 0

end ListInvocation.Text
