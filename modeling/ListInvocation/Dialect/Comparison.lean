import ListInvocation.Dialect.Composition
import ListInvocation.Text.Blank
import ListInvocation.Decimal.Scientific
import ListInvocation.Pattern.Library

/-!
Contract: rules that judge a result against the tree that a caller expects.

The first rule that applies decides. Ranges and relations are judged on numbers,
patterns and plain expectations on the composed result.

Owns: the type of such rules, the standard ones, and the grammars of ranges, relations
and delimited patterns.

Does not own: the choice of a rule from a chain, or what a pattern is and where it is found.
-/

namespace ListInvocation

/-- What one rule says about a result. -/
inductive Verdict where
  | notApplicable
  | matched
  | mismatched
deriving Repr, DecidableEq

def Verdict.ofBool (holds : Bool) : Verdict :=
  if holds then .matched else .mismatched

/-- A rule that judges a result, given the composer of its chain. -/
structure CompareRule where
  judge : Composer → TypedValue → Tree String → Except Failure Verdict

namespace Comparison

open ListInvocation.Decimal

/-- Splits off a number of digits with an optional minus. -/
def takeInteger? (text : List Char) : Option (List Char × List Char) :=
  let (sign, rest) :=
    match text with
    | '-' :: rest => (['-'], rest)
    | rest => ([], rest)
  let run := rest.takeWhile isDigit
  if run.isEmpty then none else some (sign ++ run, rest.dropWhile isDigit)

/-- The bounds of a range `low..high`, if both fit 64 bits. -/
def readRange? (text : List Char) : Option (Int64 × Int64) := do
  let (low, rest) ← takeInteger? text
  match rest with
  | '.' :: '.' :: rest =>
      let (high, rest) ← takeInteger? rest
      if rest.isEmpty then
        return (← readInt64? low, ← readInt64? high)
      else
        none
  | _ => none

inductive Relation where
  | less
  | lessOrEqual
  | greater
  | greaterOrEqual
  | different
deriving Repr, DecidableEq

/-- Whether a relation allows an order of the number and the bound. -/
def Relation.holds : Relation → Ordering → Bool
  | .less, order => order.isLT
  | .lessOrEqual, order => order.isLE
  | .greater, order => order.isGT
  | .greaterOrEqual, order => order.isGE
  | .different, order => order.isNe

def takeRelation? : List Char → Option (Relation × List Char)
  | '<' :: '=' :: rest => some (.lessOrEqual, rest)
  | '>' :: '=' :: rest => some (.greaterOrEqual, rest)
  | '!' :: '=' :: rest => some (.different, rest)
  | '<' :: rest => some (.less, rest)
  | '>' :: rest => some (.greater, rest)
  | _ => none

/-- Whether a text is a number with an optional minus and an optional fraction. -/
def isBound (text : List Char) : Bool :=
  match takeInteger? text with
  | none => false
  | some (_, []) => true
  | some (_, '.' :: fraction) => !fraction.isEmpty && fraction.all isDigit
  | some _ => false

/-- The relation and the bound's text of a relational expression. -/
def readRelation? (text : List Char) : Option (Relation × List Char) := do
  let (relation, rest) ← takeRelation? text
  let bound := Text.trimStart rest
  if isBound bound then some (relation, bound) else none

/-- The order of a value and a bound: exact on integers, on floats otherwise. -/
def orderAgainst? (value : Value) (bound : List Char) : Option Ordering :=
  match value, readInt64? bound with
  | .int actual, some bound => some (compare actual bound)
  | _, _ => do
      let actual ← value.asFloat?
      let bound ← readBinary64? bound
      actual.compare? bound

/-- The pattern between two slashes, if there is one. -/
def readDelimited? (text : List Char) : Option String :=
  match text with
  | '/' :: rest =>
      match rest.reverse with
      | '/' :: inner => if inner.isEmpty then none else some (String.ofList inner.reverse)
      | _ => none
  | _ => none

/-- Integers in a closed range. -/
def range : CompareRule where
  judge _ actual expected :=
    .ok <|
      if !actual.declared.isInteger || expected.isList then .notApplicable
      else
        match readRange? expected.value.toList with
        | none => .notApplicable
        | some (low, high) =>
            match actual.value.asInt? with
            | none => .mismatched
            | some value => .ofBool (low ≤ value && value ≤ high)

/-- Numbers in a relation to a bound. -/
def relational : CompareRule where
  judge _ actual expected :=
    .ok <|
      if !actual.declared.isNumeric || expected.isList then .notApplicable
      else
        match readRelation? (Text.trim expected.value.toList) with
        | none => .notApplicable
        | some (relation, bound) =>
            match orderAgainst? actual.value bound with
            | none => .mismatched
            | some order => .ofBool (relation.holds order)

variable [Pattern.Library]

/-- Composed leaves in which a pattern is found. -/
def pattern : CompareRule where
  judge composer actual expected :=
    if expected.isList then .ok .notApplicable
    else
      match readDelimited? expected.value.toList with
      | none => .ok .notApplicable
      | some source =>
          match Pattern.Library.compile source with
          | .error _ => .ok .notApplicable
          | .ok pattern =>
              match composer actual with
              | .error failure => .error failure
              | .ok (.node _ _) => .ok .notApplicable
              | .ok (.leaf text) => .ok (.ofBool (pattern.isMatch text))

/-- Composed trees equal to the expected one. -/
def exact : CompareRule where
  judge composer actual expected :=
    (composer actual).map fun composed => .ofBool (composed == expected)

def standard : List CompareRule :=
  [range, relational, pattern, exact]

end Comparison

end ListInvocation
