import ListInvocation.Pattern.Library
import ListInvocation.Pattern.Meaning
import ListInvocation.Pattern.Reading
import ListInvocation.Pattern.Size

/-!
Contract: an engine that compiles patterns and searches for them.

Characters have the properties of Unicode 15.0, and the size of an automaton is estimated
from its parts. Other engines may know more characters or count otherwise.

Owns: the limit on the size of a pattern, and compilation.

Does not own: the reading of a pattern, or the meaning of its terms.
-/

namespace ListInvocation.Pattern

/-- The most bytes that the automaton of a pattern may take. -/
def sizeLimit : Nat := 10 * 1024 * 1024

def expressionOf (source : String) : Except PatternFault Expression := do
  let term ← Term.ofText source
  let (expression, _) ← term.meaning .standard
  return expression

def compile (source : String) : Except PatternError Pattern :=
  match expressionOf source with
  | .error fault => .error (.malformed source fault)
  | .ok expression =>
      if sizeLimit < expression.size then .error (.tooLarge sizeLimit)
      else .ok ⟨source, fun text => expression.foundIn text.toList⟩

theorem source_of_compile {source : String} {pattern : Pattern}
    (compiled : compile source = .ok pattern) : pattern.source = source := by
  unfold compile at compiled
  split at compiled
  next => contradiction
  next expression meaning =>
    split at compiled
    next => contradiction
    next small =>
      cases compiled
      rfl

end ListInvocation.Pattern
