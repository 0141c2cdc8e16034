import ListInvocation.Proofs.Session.Reachable
import ListInvocation.Platform

/-!
Contract: what a failed instruction leaves behind.

Every failure but two comes before anything is changed. Only the body of a method, and the
composition of its result, can fail after a body was entered, and then one object may be
another than before.

Owns: the instructions that stop before a body is entered, the instance on which a body is
entered, and the state behind a failed instruction.

Does not own: what a body does to its object, or the text of the failure.
-/

namespace ListInvocation

open Instruction

/-- An operation that calls a member of an instance, with or without an assignment. -/
inductive Operation.Calls (target member : String) (arguments : List (Tree String)) :
    Operation → Prop where
  | call : Calls target member arguments (.call target member arguments)
  | callAndAssign (symbol : String) :
      Calls target member arguments (.callAndAssign symbol target member arguments)

variable [Text.Alphabet]

namespace Session

/-- An instruction fails before the body of a method is entered: it is malformed, its
construction fails, or its call stops. -/
inductive StopsEarly (session : Session) (tree : Tree String) : Prop where
  | malformed {failure : Failure} : decode tree = .error failure → StopsEarly session tree
  | construction {id target className : String} {arguments : List (Tree String)}
      {failure : Failure} : decode tree = .ok ⟨id, .make target className arguments⟩ →
      session.FailsToConstruct className arguments failure → StopsEarly session tree
  | call {instruction : Instruction} {target member : String}
      {arguments : List (Tree String)} {failure : Failure} :
      decode tree = .ok instruction → instruction.operation.Calls target member arguments →
      Dialect.Stops session.dialect session.instances
        (session.request target member arguments) failure →
      StopsEarly session tree

/-- An instruction enters the body of a method on the object bound to an identifier. -/
inductive EntersBody (session : Session) (tree : Tree String) (id : String) : Prop where
  | call {instruction : Instruction} {target member : String}
      {arguments : List (Tree String)} {bound : Instance} {fields : Fields}
      {method : Method} {values : Arguments} :
      decode tree = .ok instruction → instruction.operation.Calls target member arguments →
      Dialect.Enters session.dialect session.instances
        (session.request target member arguments) id bound method values →
      bound.object = .fields fields → EntersBody session tree id

/-- The state behind a failed instruction, next to the one before it. -/
structure FailureFrame (session : Session) (tree : Tree String) (next : Session) : Prop where
  symbols : next.symbols = session.symbols
  searchPath : next.searchPath = session.searchPath
  /-- The same identifiers are bound to instances of the same classes in the same order. -/
  classes : next.instances.classes = session.instances.classes
  /-- Only the object on which a body was entered may be another one. -/
  objects : (session.StopsEarly tree ∧ next = session) ∨
    ∃ id, session.EntersBody tree id ∧
      ∀ other, other ≠ id → next.instances.find? other = session.instances.find? other
  stopped : session.StopsEarly tree → next = session

/-! ## Before a body is entered -/

/-- A call changes nothing but the instances, with or without its assignment. -/
theorem run_of_calls {session : Session} {operation : Operation} {target member : String}
    {arguments : List (Tree String)} {failure : Failure}
    (calls : operation.Calls target member arguments)
    (failed : (session.run operation).1 = .error failure) :
    (session.run operation).2 = (session.call target member arguments).2 := by
  cases calls with
  | call => rfl
  | callAndAssign symbol =>
      cases composed : (session.callComposed target member arguments).1 with
      | error cause =>
          rw [run_callAndAssign_of_error composed]
          rfl
      | ok result =>
          rw [run_callAndAssign_of_ok composed] at failed
          contradiction

theorem run_of_stops {session : Session} {operation : Operation} {target member : String}
    {arguments : List (Tree String)} {failure : Failure}
    (calls : operation.Calls target member arguments)
    (stops : Dialect.Stops session.dialect session.instances
      (session.request target member arguments) failure) :
    session.run operation = (.error failure, session) := by
  have composed : session.callComposed target member arguments = (.error failure, session) := by
    rw [callComposed_eq, call_eq, stops.invoke_eq]
    rfl
  cases calls with
  | call => exact composed
  | callAndAssign symbol =>
      have failed : (session.callComposed target member arguments).1 = .error failure := by
        rw [composed]
      rw [run_callAndAssign_of_error failed, composed]

/-- An instruction that stops early fails, and the session stays as it was. -/
theorem StopsEarly.unchanged {session : Session} {tree : Tree String}
    (stops : session.StopsEarly tree) :
    (session.executeInstruction tree).2 = session ∧
      (session.executeInstruction tree).1.failure?.isSome = true := by
  cases stops with
  | malformed undecodable =>
      rw [executeInstruction_of_error undecodable]
      exact ⟨rfl, rfl⟩
  | construction decoded fails =>
      rw [executeInstruction_of_ok decoded, run_make_of_error fails.construct_eq]
      exact ⟨rfl, rfl⟩
  | call decoded calls stopped =>
      rw [executeInstruction_of_ok decoded, run_of_stops calls stopped]
      exact ⟨rfl, rfl⟩

/-! ## Failed instructions -/

theorem run_of_failed {session : Session} {tree : Tree String} {instruction : Instruction}
    {failure : Failure} (decoded : decode tree = .ok instruction)
    (failed : (session.executeInstruction tree).1.failure? = some failure) :
    (session.run instruction.operation).1 = .error failure := by
  rw [executeInstruction_of_ok decoded] at failed
  cases ended : (session.run instruction.operation).1 with
  | error cause =>
      rw [ended] at failed
      rw [Option.some.inj failed]
  | ok result =>
      rw [ended] at failed
      exact absurd failed (nofun)

/-- A failed instruction stopped early, or it is a call that entered a body. -/
theorem failed_cases [Pattern.Library] {session : Session} {tree : Tree String} {failure : Failure}
    (builtIn : session.dialect.BuiltIn) (own : session.instances.OwnObjects)
    (failed : (session.executeInstruction tree).1.failure? = some failure) :
    session.StopsEarly tree ∨ ∃ id, session.EntersBody tree id := by
  cases decoded : decode tree with
  | error cause => exact .inl (.malformed decoded)
  | ok instruction =>
      have ended := run_of_failed decoded failed
      have called : ∀ {target member arguments},
          instruction.operation.Calls target member arguments →
            session.StopsEarly tree ∨ ∃ id, session.EntersBody tree id := by
        intro target member arguments calls
        rcases Dialect.invoke_cases builtIn session.instances
            (session.request target member arguments) with stopped | entered
        · obtain ⟨cause, stops⟩ := stopped
          exact .inl (.call decoded calls stops)
        · obtain ⟨id, bound, method, values, enters⟩ := entered
          obtain ⟨fields, object⟩ := own _ (InstanceTable.mem_of_find? enters.found)
          exact .inr ⟨id, .call decoded calls enters object⟩
      obtain ⟨id, operation⟩ := instruction
      have ends := session.run_ends operation
      generalize session.run operation = outcome at ends ended
      cases ends with
      | unmade fails => exact .inl (.construction decoded fails)
      | made _ _ => contradiction
      | called => exact called .call
      | unassigned _ => exact called (.callAndAssign _)
      | assigned _ => contradiction
      | imported => contradiction
      | bound => contradiction

/-- Behind a body that was entered, all is as before but the object that it ran on. -/
theorem EntersBody.frame {session : Session} {tree : Tree String} {id : String}
    {failure : Failure} (enters : session.EntersBody tree id)
    (failed : (session.executeInstruction tree).1.failure? = some failure) :
    ∃ object, (session.executeInstruction tree).2 =
      { session with instances := session.instances.withObject id object } := by
  obtain ⟨decoded, calls, entered, _⟩ := enters
  have ended := run_of_failed decoded failed
  rw [executeInstruction_of_ok decoded, run_of_calls calls ended, call_eq,
    entered.invoke_eq]
  exact ⟨_, rfl⟩

variable [Pattern.Library]

/-- A failed instruction changes no symbol, no path and no binding. It may change the one
object on which it entered the body of a method, and none at all where it is malformed, its
construction fails, or its call stops before a body. -/
theorem executeInstruction_failed {registry : Registry} {dialect : Dialect}
    {session : Session} (builtIn : dialect.BuiltIn)
    (reachable : Reachable registry dialect session) {tree : Tree String} {failure : Failure}
    (failed : (session.executeInstruction tree).1.failure? = some failure) :
    session.FailureFrame tree (session.executeInstruction tree).2 := by
  have own := reachable.ownObjects builtIn
  rw [← reachable.setting.2] at builtIn
  rcases failed_cases builtIn own failed with stops | entered
  · have unchanged := stops.unchanged.1
    rw [unchanged]
    exact ⟨rfl, rfl, rfl, .inl ⟨stops, rfl⟩, fun _ => rfl⟩
  · obtain ⟨id, enters⟩ := entered
    obtain ⟨object, shape⟩ := enters.frame failed
    refine ⟨?_, ?_, ?_, .inr ⟨id, enters, ?_⟩, fun stops => stops.unchanged.1⟩
    · rw [shape]
    · rw [shape]
    · rw [shape]
      exact session.instances.classes_withObject id object
    · intro other different
      rw [shape]
      exact session.instances.find?_withObject_of_ne different object

end Session

end ListInvocation

namespace ListInvocation.Session

open Instruction

/-- Division by zero, which fails in the body of its method. -/
def divideByZero : Tree String :=
  .list [.text "1", .text "call", .text "c", .text "divide", .text "0"]

theorem executeInstruction_failed_divideByZero :
    (sampleSession.executeInstruction divideByZero).1.failure? =
        some (.fixture "DivideByZero" "cannot divide by zero") ∧
      sampleSession.FailureFrame divideByZero
        (sampleSession.executeInstruction divideByZero).2 := by
  have failed : (sampleSession.executeInstruction divideByZero).1.failure? =
      some (.fixture "DivideByZero" "cannot divide by zero") := by decide +kernel
  exact ⟨failed,
    executeInstruction_failed (Dialect.builtIn_standard .invariant) reachable_sampleSession
      failed⟩

end ListInvocation.Session
