import ListInvocation.Proofs.Dialect.Invocation

/-!
Contract: what a request can do to the bound objects.

A rule runs a member on a held instance: the objects afterwards are those before, or one
of them is as the body of a method of its class left it.

Owns: bodies as they run on a bound object, the rules that run at most one body, and that
a chain of such rules does no more.

Does not own: which instance a rule chooses.
-/

namespace ListInvocation

/-- The body of a method, run on the object bound to an identifier with some arguments. -/
structure Body where
  id : String
  method : Method
  arguments : Arguments

/-- The instance that a body leaves behind. -/
def Body.after (body : Body) (bound : Instance) : Instance :=
  { bound with
    object := (body.method.invoke bound.fixture.name bound.object body.arguments).2 }

/-- A table changes by at most one body, that of a method of a bound instance. -/
inductive InstanceTable.Moves (table : InstanceTable) :
    Option Body → InstanceTable → Prop where
  | idle : Moves table none table
  | body {body : Body} {bound : Instance} : table.find? body.id = some bound →
      body.method ∈ bound.fixture.methods →
      Moves table (some body) (table.withObject body.id (body.after bound).object)

/-- A rule that runs at most one member of a bound instance, and changes nothing else. -/
def InvokeRule.RunsMember (rule : InvokeRule) : Prop :=
  ∀ (parser : ArgumentParser) (table : InstanceTable) (request : Request),
    ∃ body?, table.Moves body? (rule.invoke parser table request).2

namespace Invocation

theorem moves_invokeOn (parser : ArgumentParser) (table : InstanceTable) (id : String)
    (request : Request) :
    ∃ body?, table.Moves body? (invokeOn parser table id request).2 := by
  unfold invokeOn InstanceTable.require
  cases found : table.find? id with
  | none => exact ⟨none, .idle⟩
  | some bound =>
      simp only
      cases offered : bound.fixture.method? request.member request.arity with
      | none => exact ⟨none, .idle⟩
      | some method =>
          simp only
          cases parser method.parameters request.arguments with
          | error failure => exact ⟨none, .idle⟩
          | ok arguments =>
              exact ⟨some ⟨id, method, arguments⟩,
                .body found (List.mem_of_find?_eq_some offered)⟩

/-- The standard rules run at most one member. -/
theorem runsMember_of_mem_standard {rule : InvokeRule} (isStandard : rule ∈ standard) :
    rule.RunsMember := by
  intro parser table request
  simp only [standard, List.mem_cons, List.not_mem_nil, or_false] at isStandard
  rcases isStandard with same | same
  · rw [same]
    exact moves_invokeOn parser table request.target request
  · rw [same]
    unfold library
    simp only
    cases library? table request with
    | none => exact ⟨none, .idle⟩
    | some id => exact moves_invokeOn parser table id request

end Invocation

/-- A request does no more than the rule that carries it out. -/
theorem Dialect.moves_invoke {dialect : Dialect}
    (members : ∀ rule ∈ dialect.invokeRules, rule.RunsMember) (table : InstanceTable)
    (request : Request) : ∃ body?, table.Moves body? (dialect.invoke table request).2 := by
  unfold invoke InstanceTable.require
  cases table.find? request.target with
  | none => exact ⟨none, .idle⟩
  | some bound =>
      simp only
      cases chosen : dialect.invokeRules.find? fun rule => rule.accepts table request with
      | none => exact ⟨none, .idle⟩
      | some rule =>
          exact members rule (List.mem_of_find?_eq_some chosen) dialect.parseArguments table
            request

end ListInvocation
