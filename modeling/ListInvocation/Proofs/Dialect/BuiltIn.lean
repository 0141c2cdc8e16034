import ListInvocation.Dialect

/-!
Contract: dialects that are put together from the standard rules.

Owns: the predicate, for any order and number of rules in each chain.

Does not own: what follows from it for a single chain.
-/

namespace ListInvocation.Dialect

variable [Pattern.Library]

/-- A dialect whose chains hold standard rules only, in any order and number. -/
structure BuiltIn (dialect : Dialect) : Prop where
  compose : ∀ rule ∈ dialect.composeRules, rule ∈ Composition.standard
  parse : ∀ rule ∈ dialect.parseRules, rule ∈ Parsing.standard
  compare : ∀ rule ∈ dialect.compareRules, rule ∈ Comparison.standard
  invoke : ∀ rule ∈ dialect.invokeRules, rule ∈ Invocation.standard

theorem builtIn_standard (format : NumberFormat) : (standard.withFormat format).BuiltIn :=
  ⟨fun _ member => member, fun _ member => member, fun _ member => member,
    fun _ member => member⟩

end ListInvocation.Dialect
