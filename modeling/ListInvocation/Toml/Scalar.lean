import ListInvocation.Toml.Lexical
import ListInvocation.Text.Hexadecimal
import ListInvocation.Decimal.Scientific

/-!
Contract: the unquoted values of a TOML document.

Owns: truth values, integers in four bases, floats, and dates and times with the ranges
of their parts.

Does not own: texts, arrays and tables.
-/

namespace ListInvocation.Toml

open ListInvocation.Decimal

inductive Scalar where
  | boolean (value : Bool)
  | integer (value : Int)
  | float (value : Binary64)
  /-- A date, a time or both, as written. -/
  | moment (written : String)
deriving Repr, DecidableEq

def isScalarCharacter (character : Char) : Bool :=
  character.isAlphanum || character == '+' || character == '-' || character == '_'
    || character == '.' || character == ':'

/-- Digits in which single underscores stand between digits only, without them. -/
def withoutUnderscores? (isDigit : Char → Bool) : List Char → Option (List Char)
  | [] => none
  | [digit] => if isDigit digit then some [digit] else none
  | digit :: '_' :: rest =>
      if isDigit digit then (withoutUnderscores? isDigit rest).map (digit :: ·) else none
  | digit :: rest =>
      if isDigit digit then (withoutUnderscores? isDigit rest).map (digit :: ·) else none

/-- Digits of a decimal number, without underscores and without a leading zero. -/
def decimalDigits? (text : List Char) : Option (List Char) := do
  let digits ← withoutUnderscores? isDigit text
  if 1 < digits.length ∧ digits.head? = some '0' then none
  return digits

def leastInteger : Int := -Int.ofNat (Nat.pow 2 127)

/-- The integers that can be held lie below this one. -/
def integerBound : Int := Int.ofNat (Nat.pow 2 128)

def heldInteger? (value : Int) : Option Scalar :=
  if leastInteger ≤ value ∧ value < integerBound then some (.integer value) else none

def readBased? (base : Nat) (text : List Char) : Option Scalar := do
  let valid (digit : Char) : Bool :=
    match Text.hexValue? digit with
    | some value => value < base
    | none => false
  let digits ← withoutUnderscores? valid text
  let value := digits.foldl
    (fun value digit => value * base + (Text.hexValue? digit).getD 0) 0
  heldInteger? value

def splitSign : List Char → Bool × List Char
  | '-' :: rest => (true, rest)
  | '+' :: rest => (false, rest)
  | text => (false, text)

/-- Splits a text at the first character of a class; that character starts the rest. -/
def splitAt (stops : Char → Bool) (text : List Char) : List Char × List Char :=
  (text.takeWhile fun character => !stops character,
    text.dropWhile fun character => !stops character)

def isExponentMark (character : Char) : Bool :=
  character == 'e' || character == 'E'

def exponentOf? : List Char → Option Int
  | [] => some 0
  | _ :: text => do
      let (negative, text) := splitSign text
      let digits ← withoutUnderscores? isDigit text
      return if negative then -(ofDigits digits : Int) else ofDigits digits

def fractionOf? : List Char → Option (List Char)
  | [] => some []
  | _ :: text => withoutUnderscores? isDigit text

/-- Reads a float without its sign; one beyond all finite numbers is refused. -/
def readFloat? (negative : Bool) (text : List Char) : Option Scalar := do
  let (mantissa, exponent) := splitAt isExponentMark text
  let (whole, fraction) := splitAt (· == '.') mantissa
  let wholeDigits ← decimalDigits? whole
  let fractionDigits ← fractionOf? fraction
  let exponent ← exponentOf? exponent
  let decimal : Scientific :=
    ⟨negative, ofDigits (wholeDigits ++ fractionDigits), exponent - fractionDigits.length⟩
  let value := decimal.toBinary64
  if value.isInfinite then none else some (.float value)

def readNumber? (text : List Char) : Option Scalar :=
  let (negative, rest) := splitSign text
  match String.ofList rest with
  | "inf" => some (.float (if negative then .negativeInfinity else .infinity))
  | "nan" =>
      some (.float (.ofMagnitude negative Binary64.nan.magnitude))
  | _ =>
      match text with
      | '0' :: 'x' :: digits => readBased? 16 digits
      | '0' :: 'o' :: digits => readBased? 8 digits
      | '0' :: 'b' :: digits => readBased? 2 digits
      | _ =>
          if rest.any fun character => character == '.' || isExponentMark character then
            readFloat? negative rest
          else do
            let digits ← decimalDigits? rest
            heldInteger? (if negative then -(ofDigits digits : Int) else ofDigits digits)

/-- Reads a number of exactly `width` digits that lies in a range. -/
def readPart (width least greatest : Nat) : Reader Nat := fun text =>
  let digits := text.take width
  if digits.length = width ∧ digits.all isDigit then
    let value := ofDigits digits
    if least ≤ value ∧ value ≤ greatest then some (value, text.drop width) else none
  else
    none

def daysOfMonth (year month : Nat) : Nat :=
  if month = 2 then
    if year % 4 = 0 ∧ (year % 100 ≠ 0 ∨ year % 400 = 0) then 29 else 28
  else if month = 4 ∨ month = 6 ∨ month = 9 ∨ month = 11 then 30
  else 31

def passDate (text : List Char) : Option (List Char) := do
  let (year, text) ← readPart 4 0 9999 text
  let (month, text) ← readPart 2 1 12 (← expect '-' text)
  let (_, text) ← readPart 2 1 (daysOfMonth year month) (← expect '-' text)
  return text

def passFraction : List Char → Option (List Char)
  | '.' :: text =>
      if (text.takeWhile isDigit).isEmpty then none else some (text.dropWhile isDigit)
  | text => some text

/-- Passes a time; its seconds may be left out. -/
def passTime (text : List Char) : Option (List Char) := do
  let (_, text) ← readPart 2 0 23 text
  let (_, text) ← readPart 2 0 59 (← expect ':' text)
  match text with
  | ':' :: text =>
      let (_, text) ← readPart 2 0 60 text
      passFraction text
  | text => return text

def passOffset : List Char → Option (List Char)
  | [] => some []
  | sign :: text =>
      if sign = 'Z' ∨ sign = 'z' then some text
      else if sign = '+' ∨ sign = '-' then do
        let (_, text) ← readPart 2 0 23 text
        let (_, text) ← readPart 2 0 59 (← expect ':' text)
        return text
      else
        none

/-- Whether a text is a date, a time, or a date and a time with an optional offset. -/
def isMoment (text : List Char) : Bool :=
  match passDate text with
  | some [] => true
  | some (mark :: rest) =>
      (mark == 'T' || mark == 't' || mark == ' ')
        && (passTime rest >>= passOffset) == some []
  | none => passTime text == some []

def scalarOf? (text : List Char) : Option Scalar :=
  match String.ofList text with
  | "true" => some (.boolean true)
  | "false" => some (.boolean false)
  | written => if isMoment text then some (.moment written) else readNumber? text

/-- Reads an unquoted value. A date and a time may have one space between them. -/
def readScalar : Reader Scalar := fun text =>
  let written := text.takeWhile isScalarCharacter
  let rest := text.dropWhile isScalarCharacter
  let (written, rest) :=
    match passDate written, rest with
    | some [], ' ' :: digit :: _ =>
        if isDigit digit then
          let behind := rest.drop 1
          (written ++ ' ' :: behind.takeWhile isScalarCharacter,
            behind.dropWhile isScalarCharacter)
        else
          (written, rest)
    | _, _ => (written, rest)
  (scalarOf? written).map fun scalar => (scalar, rest)

end ListInvocation.Toml
