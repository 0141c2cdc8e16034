import ListInvocation.Fixture.Sample
import ListInvocation.Proofs.Dialect.Invocation
import ListInvocation.Proofs.Fixture.Instances
import ListInvocation.Proofs.Session.Batch

/-!
Contract: the states that a session can come to.

Owns: reachability by operations and by the end of a session, its closure under
instructions and batches, and the classes of the objects in a reachable state.

Does not own: the order of bindings, or what a single state looks like.
-/

namespace ListInvocation.Session

variable [Text.Alphabet]

/-- The states that a session on some classes, with some rules, can come to. -/
inductive Reachable (registry : Registry) (dialect : Dialect) : Session → Prop where
  | start : Reachable registry dialect (.start registry dialect)
  | run {session : Session} (operation : Operation) :
      Reachable registry dialect session → Reachable registry dialect (session.run operation).2
  | finish {session : Session} :
      Reachable registry dialect session → Reachable registry dialect session.finish

namespace Reachable

variable {registry : Registry} {dialect : Dialect} {session : Session}

theorem setting (reachable : Reachable registry dialect session) :
    session.registry = registry ∧ session.dialect = dialect := by
  induction reachable with
  | start => exact ⟨rfl, rfl⟩
  | @run session operation _ inductionHypothesis =>
      have kept := session.run_setting operation
      exact ⟨kept.1.trans inductionHypothesis.1, kept.2.trans inductionHypothesis.2⟩
  | finish _ inductionHypothesis => exact inductionHypothesis

theorem executeInstruction (reachable : Reachable registry dialect session)
    (tree : Tree String) :
    Reachable registry dialect (session.executeInstruction tree).2 := by
  cases decoded : Instruction.decode tree with
  | error failure =>
      rw [executeInstruction_of_error decoded]
      exact reachable
  | ok instruction =>
      rw [executeInstruction_of_ok decoded]
      exact reachable.run instruction.operation

theorem executeAll (reachable : Reachable registry dialect session)
    (trees : List (Tree String)) :
    Reachable registry dialect (session.executeAll trees).2 := by
  induction trees generalizing session with
  | nil => exact reachable
  | cons tree trees inductionHypothesis =>
      rw [executeAll_cons]
      exact inductionHypothesis (reachable.executeInstruction tree)

end Reachable

variable [Pattern.Library]

/-- A session on the sample classes, with one calculator. -/
def sampleSession : Session :=
  ((start Sample.registry .standard).run (.make "c" "demo.Calculator" [])).2

theorem reachable_sampleSession : Reachable Sample.registry .standard sampleSession :=
  .run (.make "c" "demo.Calculator" []) .start

/-! ## Objects -/

omit [Text.Alphabet] in
/-- An entered body leaves an object of the same class behind. -/
theorem ownObjects_invoke {dialect : Dialect} (builtIn : dialect.BuiltIn)
    {table : InstanceTable} (own : table.OwnObjects) (request : Request) :
    (dialect.invoke table request).2.OwnObjects := by
  rcases Dialect.invoke_cases builtIn table request with stopped | entered
  · obtain ⟨failure, stops⟩ := stopped
    rw [stops.invoke_eq]
    exact own
  · obtain ⟨id, bound, method, arguments, enters⟩ := entered
    obtain ⟨fields, object⟩ := own _ (InstanceTable.mem_of_find? enters.found)
    rw [enters.invoke_eq]
    simp only at object
    rw [object]
    exact InstanceTable.ownObjects_withObject own id _

theorem ownObjects_run {session : Session} (builtIn : session.dialect.BuiltIn)
    (own : session.instances.OwnObjects) (operation : Operation) :
    (session.run operation).2.instances.OwnObjects := by
  have ends := session.run_ends operation
  generalize session.run operation = ended at ends ⊢
  cases ends with
  | unmade _ => exact own
  | made _ _ => exact InstanceTable.ownObjects_bind own _ rfl
  | called => exact ownObjects_invoke builtIn own _
  | unassigned _ => exact ownObjects_invoke builtIn own _
  | assigned _ => exact ownObjects_invoke builtIn own _
  | imported => exact own
  | bound => exact own

/-- In a reachable state every object belongs to the class that it is bound with. -/
theorem Reachable.ownObjects {registry : Registry} {dialect : Dialect} {session : Session}
    (builtIn : dialect.BuiltIn) (reachable : Reachable registry dialect session) :
    session.instances.OwnObjects := by
  induction reachable with
  | start =>
      intro binding member
      exact absurd member List.not_mem_nil
  | @run session operation before inductionHypothesis =>
      apply ownObjects_run _ inductionHypothesis
      rw [before.setting.2]
      exact builtIn
  | finish _ _ =>
      intro binding member
      exact absurd member List.not_mem_nil

end ListInvocation.Session
