import ListInvocation.Dialect.Composition
import ListInvocation.Dialect.Parsing
import ListInvocation.Dialect.Comparison
import ListInvocation.Dialect.Invocation

/-!
Contract: the four chains of rules that a session works with.

In each chain the first rule that accepts decides; appending rules only adds answers
where there was none.

Owns: the type `Dialect`, its standard instance, extension by further rules, and the
four services: compose, parse, compare and invoke.

Does not own: the rules themselves.
-/

namespace ListInvocation

/-- Chains of rules and the format of numbers. -/
structure Dialect where
  composeRules : List ComposeRule
  parseRules : List ParseRule
  compareRules : List CompareRule
  invokeRules : List InvokeRule
  format : NumberFormat

namespace Dialect

def empty : Dialect := ⟨[], [], [], [], .invariant⟩

def standard [Pattern.Library] : Dialect where
  composeRules := Composition.standard
  parseRules := Parsing.standard
  compareRules := Comparison.standard
  invokeRules := Invocation.standard
  format := .invariant

/-- The dialect with the rules of another one behind its own. -/
def extend (dialect further : Dialect) : Dialect :=
  { dialect with
    composeRules := dialect.composeRules ++ further.composeRules
    parseRules := dialect.parseRules ++ further.parseRules
    compareRules := dialect.compareRules ++ further.compareRules
    invokeRules := dialect.invokeRules ++ further.invokeRules }

def withFormat (dialect : Dialect) (format : NumberFormat) : Dialect :=
  { dialect with format := format }

/-- Composes values of fewer than `levels` list levels. -/
def composeWithin (dialect : Dialect) : (levels : Nat) → Composer
  | 0, value => .error (.operatorMissing .compose value.declared)
  | levels + 1, value =>
      match dialect.composeRules.find? (fun rule => rule.accepts value) with
      | some rule => rule.compose dialect.format (dialect.composeWithin levels) value
      | none => .error (.operatorMissing .compose value.declared)

/-- Composes a value by the first rule that accepts it. -/
def compose (dialect : Dialect) : Composer := fun value =>
  dialect.composeWithin (value.nesting + 1) value

/-- Parses where target and tree have fewer than `levels` list levels together. -/
def parseWithin (dialect : Dialect) : (levels : Nat) → Parser
  | 0, target, _ => .error (.operatorMissing .parse target)
  | levels + 1, target, tree =>
      match dialect.parseRules.find? (fun rule => rule.accepts target tree) with
      | some rule => rule.parse (dialect.parseWithin levels) target tree
      | none => .error (.operatorMissing .parse target)

/-- The list levels that parsing a tree for a target can pass through, and one more. -/
def parseLevels (target : ValueType) (tree : Tree String) : Nat :=
  target.nesting + tree.nesting + 1

/-- Parses a tree by the first rule that accepts it for the target. -/
def parse (dialect : Dialect) : Parser := fun target tree =>
  dialect.parseWithin (parseLevels target tree) target tree

/-- Parses arguments for their parameters, as far as both go; the first failure counts. -/
def parseArguments (dialect : Dialect) : ArgumentParser
  | parameter :: parameters, tree :: trees => do
      let argument ← dialect.parse parameter tree
      let arguments ← dialect.parseArguments parameters trees
      return argument :: arguments
  | _, _ => .ok []

/-- Judges a result by the first of some rules that applies. -/
def judgeBy (dialect : Dialect) (actual : TypedValue) (expected : Tree String) :
    List CompareRule → Except Failure Bool
  | [] => .error (.operatorMissing .compare actual.declared)
  | rule :: rules => do
      match ← rule.judge dialect.compose actual expected with
      | .notApplicable => dialect.judgeBy actual expected rules
      | .matched => return true
      | .mismatched => return false

def compare (dialect : Dialect) (actual : TypedValue) (expected : Tree String) :
    Except Failure Bool :=
  dialect.judgeBy actual expected dialect.compareRules

/-- Carries out a request by the first rule that accepts it. The named instance must
exist even where another one would answer. -/
def invoke (dialect : Dialect) (table : InstanceTable) (request : Request) : Invoked :=
  match table.require request.target with
  | .error failure => (.error failure, table)
  | .ok bound =>
      match dialect.invokeRules.find? (fun rule => rule.accepts table request) with
      | some rule => rule.invoke dialect.parseArguments table request
      | none =>
          (.error (.memberMissing bound.fixture.name request.member request.arity), table)

end Dialect

end ListInvocation
