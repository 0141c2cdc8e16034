import ListInvocation.Binary64.Shortest

/-!
Contract: the text of numbers in results.

Integers are plain digits. Floats are the shortest decimal that reads back, in
positional notation, with a chosen decimal separator; the numbers that are not
finite have fixed words.

Owns: the type `NumberFormat` and the rendering of both kinds of number.

Does not own: the reading of numbers, which knows the point only.
-/

namespace ListInvocation

structure NumberFormat where
  decimalSeparator : Char
deriving Repr, DecidableEq

namespace NumberFormat

def invariant : NumberFormat := ⟨'.'⟩

instance : Inhabited NumberFormat := ⟨invariant⟩

def renderInt (_format : NumberFormat) (number : Int64) : String :=
  String.ofList
    (if number < 0 then '-' :: Decimal.digits number.toInt.natAbs
     else Decimal.digits number.toInt.natAbs)

/-- A float: its sign, also of zero, and the shortest decimal of its absolute value. -/
def renderFloat (format : NumberFormat) (number : Binary64) : String :=
  if number.isNaN then "NaN"
  else if number.isInfinite then
    if number.isNegative then "-Infinity" else "Infinity"
  else
    let absolute :=
      if number.magnitude = 0 then ['0']
      else number.shortest.positional [format.decimalSeparator]
    String.ofList (if number.isNegative then '-' :: absolute else absolute)

end NumberFormat

end ListInvocation
