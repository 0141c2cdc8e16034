import Mathlib.Data.List.Forall2
import ListInvocation.Proofs.Session.Operation

/-!
Contract: a batch has one outcome for each of its instructions.

Owns: the identifier of an outcome, the result in place of a failed instruction's, the
outcomes of a batch in its order, and what no instruction changes.

Does not own: what a single operation does to instances and symbols.
-/

namespace ListInvocation

open Instruction

/-! ## Identifiers -/

/-- An instruction has the identifier that can be read off its tree. -/
theorem Instruction.id_of_decode {tree : Tree String} {instruction : Instruction}
    (decoded : decode tree = .ok instruction) : instruction.id = peekId tree := by
  have spelled : ofBranches? tree.branches = some instruction := by
    unfold decode at decoded
    split at decoded
    next found => rw [found, Except.ok.inj decoded]
    next => contradiction
  unfold ofBranches? at spelled
  split at spelled
  next id verb rest shape =>
    obtain ⟨operation, _, made⟩ := Option.map_eq_some_iff.mp spelled
    rw [peekId, shape, ← made]
  next => contradiction

namespace Session

theorem executeInstruction_of_error [Text.Alphabet] {session : Session} {tree : Tree String}
    {failure : Failure} (malformed : decode tree = .error failure) :
    session.executeInstruction tree =
      (session.outcomeOf (peekId tree) (.error failure), session) := by
  rw [executeInstruction, malformed]

theorem executeInstruction_of_ok [Text.Alphabet] {session : Session} {tree : Tree String}
    {instruction : Instruction} (decoded : decode tree = .ok instruction) :
    session.executeInstruction tree =
      ((session.run instruction.operation).2.outcomeOf (peekId tree)
          (session.run instruction.operation).1,
        (session.run instruction.operation).2) := by
  rw [executeInstruction, decoded, ← id_of_decode decoded]

@[simp] theorem outcomeOf_id (session : Session) (id : String)
    (result : Except Failure (Tree String)) : (session.outcomeOf id result).id = id := by
  cases result <;> rfl

/-- Whatever becomes of an instruction, its outcome has its identifier. -/
theorem executeInstruction_id [Text.Alphabet] (session : Session) (tree : Tree String) :
    (session.executeInstruction tree).1.id = peekId tree := by
  cases decoded : decode tree with
  | error failure => rw [executeInstruction_of_error decoded, outcomeOf_id]
  | ok instruction => rw [executeInstruction_of_ok decoded, outcomeOf_id]

/-! ## The setting of a session -/

theorem executeInstruction_setting [Text.Alphabet] (session : Session) (tree : Tree String) :
    (session.executeInstruction tree).2.registry = session.registry ∧
      (session.executeInstruction tree).2.dialect = session.dialect := by
  cases decoded : decode tree with
  | error failure =>
      rw [executeInstruction_of_error decoded]
      exact ⟨rfl, rfl⟩
  | ok instruction =>
      rw [executeInstruction_of_ok decoded]
      exact session.run_setting instruction.operation

/-! ## Failed instructions -/

/-- The usual rules compose a failure as its exception text, in any number format. -/
theorem composeFailure_standard [Pattern.Library] {session : Session} {format : NumberFormat}
    (standard : session.dialect = Dialect.standard.withFormat format) (failure : Failure) :
    session.composeFailure failure = .text failure.exceptionText := by
  unfold composeFailure
  rw [standard]
  rfl

theorem outcomeOf_result [Pattern.Library] {session : Session} {format : NumberFormat}
    (standard : session.dialect = Dialect.standard.withFormat format) {id : String}
    {result : Except Failure (Tree String)} {failure : Failure}
    (failed : (session.outcomeOf id result).failure? = some failure) :
    (session.outcomeOf id result).result = .text failure.exceptionText := by
  cases result with
  | ok tree => exact absurd failed (nofun)
  | error cause =>
      have same : cause = failure := Option.some.inj failed
      rw [← same]
      exact composeFailure_standard standard cause

variable [Text.Alphabet]

/-- A failed instruction is answered with the exception text of its failure. -/
theorem executeInstruction_result [Pattern.Library] {session : Session} {format : NumberFormat}
    (standard : session.dialect = Dialect.standard.withFormat format) {tree : Tree String}
    {failure : Failure}
    (failed : (session.executeInstruction tree).1.failure? = some failure) :
    (session.executeInstruction tree).1.result = .text failure.exceptionText := by
  cases decoded : decode tree with
  | error cause =>
      rw [executeInstruction_of_error decoded] at failed ⊢
      exact outcomeOf_result standard failed
  | ok instruction =>
      rw [executeInstruction_of_ok decoded] at failed ⊢
      have setting := session.run_setting instruction.operation
      exact outcomeOf_result (setting.2.trans standard) failed

/-! ## Outcomes in order -/

theorem executeAll_cons (session : Session) (tree : Tree String)
    (trees : List (Tree String)) :
    session.executeAll (tree :: trees) =
      ((session.executeInstruction tree).1 ::
          ((session.executeInstruction tree).2.executeAll trees).1,
        ((session.executeInstruction tree).2.executeAll trees).2) := rfl

/-- Instructions behind others are carried out in the state that those leave. -/
theorem executeAll_append (session : Session) (front back : List (Tree String)) :
    session.executeAll (front ++ back) =
      ((session.executeAll front).1 ++ ((session.executeAll front).2.executeAll back).1,
        ((session.executeAll front).2.executeAll back).2) := by
  induction front generalizing session with
  | nil => rfl
  | cons tree front inductionHypothesis =>
      rw [List.cons_append, executeAll_cons, executeAll_cons, inductionHypothesis]
      rfl

/-- Each instruction has one outcome, under its own identifier, in the same order. -/
theorem executeAll_ids (session : Session) (trees : List (Tree String)) :
    List.Forall₂ (fun tree outcome => outcome.id = peekId tree) trees
      (session.executeAll trees).1 := by
  induction trees generalizing session with
  | nil => exact .nil
  | cons tree trees inductionHypothesis =>
      rw [executeAll_cons]
      exact .cons (session.executeInstruction_id tree) (inductionHypothesis _)

variable [Pattern.Library]

theorem executeAll_results {session : Session} {format : NumberFormat}
    (standard : session.dialect = Dialect.standard.withFormat format)
    (trees : List (Tree String)) :
    ∀ outcome ∈ (session.executeAll trees).1, ∀ failure,
      outcome.failure? = some failure → outcome.result = .text failure.exceptionText := by
  induction trees generalizing session with
  | nil =>
      intro outcome member
      exact absurd member List.not_mem_nil
  | cons tree trees inductionHypothesis =>
      have setting := session.executeInstruction_setting tree
      rw [executeAll_cons]
      intro outcome member failure failed
      rcases List.mem_cons.mp member with first | later
      · subst first
        exact executeInstruction_result standard failed
      · exact inductionHypothesis (setting.2.trans standard) outcome later failure failed

end Session

end ListInvocation
