import Mathlib.Algebra.Ring.Int.Parity
import ListInvocation.Fixture.Demo
import ListInvocation.Proofs.Decimal.Integer
import ListInvocation.Proofs.Session.Arguments
import ListInvocation.Proofs.Session.Tables
import ListInvocation.Platform

/-!
Contract: the arithmetic of a calculator, as a caller sees it through a session.

Sums and quotients are those of the integers, wherever they fit 64 bits. One quotient does
not fit, that of the least integer by minus one, and it fails like a division by zero.

Owns: the calls of a calculator, the one answer to each with the operands behind it, and the
course of any number of calls.

Does not own: the spelling of integers, or the names that stand for the class.
-/

namespace ListInvocation.Demo

open Decimal (FitsInt64)

variable {session : Session} {id : String} {state next : Calculator}

/-! ## Calls and answers -/

/-- A call of a member of a calculator. -/
inductive Message where
  | setLeft (argument : Tree String)
  | setRight (argument : Tree String)
  | sum
  | quotient
  | isEven (argument : Tree String)

def Message.member : Message → String
  | .setLeft _ => "setLeft"
  | .setRight _ => "setRight"
  | .sum => "sum"
  | .quotient => "quotient"
  | .isEven _ => "isEven"

def Message.arguments : Message → List (Tree String)
  | .setLeft argument | .setRight argument | .isEven argument => [argument]
  | .sum | .quotient => []

/-- What a session parses an argument as, where an integer is declared. -/
def integer [Text.Alphabet] (session : Session) (argument : Tree String) :
    Except Failure TypedValue :=
  session.dialect.parse .int (session.symbols.substitute argument)

/-- A calculator with these operands is bound to an identifier. -/
def Holds (session : Session) (id : String) (state : Calculator) : Prop :=
  session.instances.find? id = some ⟨calculator, .fields (calculatorState.store state)⟩

/-- The answer of a calculator with some operands to a call, and its operands afterwards. -/
inductive Answers [Text.Alphabet] (session : Session) (state : Calculator) :
    Message → Except Failure TypedValue → Calculator → Prop where
  | setLeft {argument : Tree String} {number : Int64} :
      integer session argument = .ok (.int number) →
      Answers session state (.setLeft argument) (.ok .void) { state with left := number }
  | setRight {argument : Tree String} {number : Int64} :
      integer session argument = .ok (.int number) →
      Answers session state (.setRight argument) (.ok .void) { state with right := number }
  | isEven {argument : Tree String} {number : Int64} {truth : Bool} :
      integer session argument = .ok (.int number) → (truth = true ↔ Even number.toInt) →
      Answers session state (.isEven argument) (.ok (.bool truth)) state
  | unparsed {message : Message} {argument : Tree String} {failure : Failure} :
      message.arguments = [argument] → integer session argument = .error failure →
      Answers session state message (.error failure) state
  | sum {total : Int64} : total.toInt = state.left.toInt + state.right.toInt →
      Answers session state .sum (.ok (.int total)) state
  | overflow : ¬ FitsInt64 (state.left.toInt + state.right.toInt) →
      Answers session state .sum
        (.error (.fixture "Overflow" "sum exceeds the integer range")) state
  | quotient {result : Int64} : state.right ≠ 0 →
      result.toInt = state.left.toInt.tdiv state.right.toInt →
      Answers session state .quotient (.ok (.int result)) state
  /-- The blame is right for a zero only. -/
  | divideByZero : state.right = 0 ∨ (state.left = Int64.minValue ∧ state.right = -1) →
      Answers session state .quotient
        (.error (.fixture "DivideByZero" "right operand is zero")) state

/-! ## Arithmetic -/

theorem sum_of_exact {total : Int64}
    (exact : total.toInt = state.left.toInt + state.right.toInt) :
    Demo.sum state = .ok (.int total) := by
  unfold Demo.sum
  rw [← exact, Decimal.toInt64?_toInt]

theorem sum_of_not_fits (unfit : ¬ FitsInt64 (state.left.toInt + state.right.toInt)) :
    Demo.sum state = .error (.fixture "Overflow" "sum exceeds the integer range") := by
  unfold Demo.sum
  rw [Decimal.toInt64?_of_not_fits unfit]

theorem quotient_of_exact {result : Int64} (divides : state.right ≠ 0)
    (exact : result.toInt = state.left.toInt.tdiv state.right.toInt) :
    Demo.quotient state = .ok (.int result) := by
  unfold Demo.quotient
  simp only [if_neg divides]
  rw [← exact, Decimal.toInt64?_toInt]

/-- The quotient of two operands fits, but for one pair. -/
theorem fitsInt64_quotient_iff (state : Calculator) :
    FitsInt64 (state.left.toInt.tdiv state.right.toInt) ↔
      ¬ (state.left = Int64.minValue ∧ state.right = -1) := by
  rw [Decimal.fitsInt64_tdiv_iff (Decimal.fitsInt64_toInt state.left), Int64.toInt_inj,
    ← Int64.toInt_inj (y := -1)]
  rfl

theorem quotient_of_divideByZero
    (blamed : state.right = 0 ∨ (state.left = Int64.minValue ∧ state.right = -1)) :
    Demo.quotient state = .error (.fixture "DivideByZero" "right operand is zero") := by
  unfold Demo.quotient
  by_cases zero : state.right = 0
  · simp only [if_pos zero]
  · have least := blamed.resolve_left zero
    have unfit := mt (fitsInt64_quotient_iff state).mp (not_not_intro least)
    simp only [if_neg zero]
    rw [Decimal.toInt64?_of_not_fits unfit]

/-- The remainder has the sign of the number, but it is zero for even numbers only. -/
theorem isEven_iff (number : Int64) : (number % 2 == 0) = true ↔ Even number.toInt := by
  rw [beq_iff_eq, ← Int64.toInt_inj, Int64.toInt_mod, even_iff_two_dvd]
  exact Int.dvd_iff_tmod_eq_zero.symm

/-! ## Calls -/

/-- A session with the usual rules and a calculator under an identifier. -/
structure Serves [Pattern.Library] (format : NumberFormat) (session : Session) (id : String)
    (state : Calculator) : Prop where
  standard : session.dialect = Dialect.standard.withFormat format
  holds : Holds session id state

theorem Holds.unique (holds : Holds session id state) (others : Holds session id next) :
    next = state := by
  unfold Holds at holds others
  rw [holds] at others
  have stored := FixtureObject.fields.inj (Instance.mk.inj (Option.some.inj others)).2
  rw [← calculatorState.load_store next, ← stored, calculatorState.load_store]

variable [Text.Alphabet]

section Calls

variable {format : NumberFormat} {member : String} {arguments : List (Tree String)}
  {method : Method}

variable [Pattern.Library]

/-- A calculator is asked itself for a member that it has, and not a library instance. -/
theorem Serves.answers (serves : Serves format session id state)
    (offered : calculator.method? member arguments.length = some method) :
    session.instances.Answers (session.request id member arguments) id
      ⟨calculator, .fields (calculatorState.store state)⟩ method := by
  refine .target serves.holds (FixtureClass.method?_eq_some_iff.mp ?_)
  have sameArity : (session.request id member arguments).arity = arguments.length := by
    rw [Request.arity, Session.request, SymbolTable.substituteAll_eq_map, List.length_map]
  rw [sameArity]
  exact offered

/-- A body runs on the operands and leaves operands behind. -/
theorem Serves.call_of_parsed (serves : Serves format session id state)
    {values : Arguments} {answer : Except Failure TypedValue}
    (offered : calculator.method? member arguments.length = some method)
    (parsed : session.dialect.parseArguments method.parameters
      (session.symbols.substituteAll arguments) = .ok values)
    (returned : (method.body (calculatorState.store state) values).1.map method.typedResult =
      answer)
    (left : (method.body (calculatorState.store state) values).2 =
      calculatorState.store next) :
    (session.call id member arguments).1 = answer ∧
      Holds (session.call id member arguments).2 id next := by
  have answers := serves.answers offered
  rw [serves.standard] at parsed
  have all := Dialect.parseArguments_eq_ok_iff.mp parsed
  have invoked := (Dialect.Dispatched.entered answers all
    (all.length_eq answers.asMany)).invoke_eq format
  simp only [Method.invoke, returned, left] at invoked
  rw [← serves.standard] at invoked
  rw [Session.call_eq, invoked]
  refine ⟨rfl, ?_⟩
  unfold Holds
  rw [InstanceTable.find?_withObject_self, serves.holds, Option.map_some]

/-- No body is entered for an argument that does not parse, and nothing changes. -/
theorem Serves.call_of_unparsed (serves : Serves format session id state) {failure : Failure}
    (offered : calculator.method? member arguments.length = some method)
    (unparsed : session.dialect.parseArguments method.parameters
      (session.symbols.substituteAll arguments) = .error failure) :
    session.call id member arguments = (.error failure, session) := by
  rw [serves.standard] at unparsed
  have invoked := (Dialect.Dispatched.unparsed (serves.answers offered)
    (Dialect.parseArguments_eq_error_iff.mp unparsed)).invoke_eq format
  rw [← serves.standard] at invoked
  rw [Session.call_eq, invoked]

end Calls

/-! ## One call -/

section Step

variable {format : NumberFormat} {message : Message} {answer : Except Failure TypedValue}

/-- One integer is parsed of a single argument, or the failure is that of the argument. -/
theorem parseArguments_integer {argument : Tree String} {read : Except Failure TypedValue}
    (parsed : integer session argument = read) :
    session.dialect.parseArguments [.int] (session.symbols.substituteAll [argument]) =
      read.map fun value => [value] := by
  rw [SymbolTable.substituteAll_eq_map, List.map_singleton]
  simp only [Dialect.parseArguments]
  rw [← integer, parsed]
  cases read <;> rfl

omit [Text.Alphabet] in
/-- Every member that takes an argument takes an integer. -/
theorem Message.exists_method {argument : Tree String}
    (takes : message.arguments = [argument]) :
    ∃ method, calculator.method? message.member message.arguments.length = some method ∧
      method.parameters = [.int] := by
  cases message with
  | setLeft _ | setRight _ | isEven _ => exact ⟨_, rfl, rfl⟩
  | sum | quotient => contradiction

variable [Pattern.Library]

/-- A call is answered as the operands say. -/
theorem Answers.call_eq (serves : Serves format session id state)
    (answers : Answers session state message answer next) :
    (session.call id message.member message.arguments).1 = answer ∧
      Holds (session.call id message.member message.arguments).2 id next := by
  cases answers with
  | setLeft parsed => exact serves.call_of_parsed rfl (parseArguments_integer parsed) rfl rfl
  | setRight parsed => exact serves.call_of_parsed rfl (parseArguments_integer parsed) rfl rfl
  | @isEven argument number truth parsed even =>
      have judged : (number % 2 == 0) = truth :=
        Bool.eq_iff_iff.mpr ((isEven_iff number).trans even.symm)
      rw [← judged]
      exact serves.call_of_parsed rfl (parseArguments_integer parsed) rfl rfl
  | unparsed takes unparsed =>
      obtain ⟨method, offered, parameters⟩ := message.exists_method takes
      have noValues := parseArguments_integer unparsed
      rw [← takes, ← parameters] at noValues
      rw [serves.call_of_unparsed offered noValues]
      exact ⟨rfl, serves.holds⟩
  | sum exact =>
      exact serves.call_of_parsed rfl rfl (congrArg (Except.map _) (sum_of_exact exact)) rfl
  | overflow unfit =>
      exact serves.call_of_parsed rfl rfl (congrArg (Except.map _) (sum_of_not_fits unfit)) rfl
  | quotient divides exact =>
      exact serves.call_of_parsed rfl rfl
        (congrArg (Except.map _) (quotient_of_exact divides exact)) rfl
  | divideByZero blamed =>
      exact serves.call_of_parsed rfl rfl
        (congrArg (Except.map _) (quotient_of_divideByZero blamed)) rfl

theorem Serves.integer_cases (serves : Serves format session id state)
    (argument : Tree String) :
    (∃ number, integer session argument = .ok (.int number)) ∨
      ∃ failure, integer session argument = .error failure := by
  cases parsed : integer session argument with
  | error failure => exact .inr ⟨failure, rfl⟩
  | ok value =>
      have builtIn : session.dialect.BuiltIn :=
        serves.standard ▸ Dialect.builtIn_standard format
      cases Dialect.hasType_of_parse builtIn parsed with
      | int number => exact .inl ⟨number, rfl⟩

theorem Serves.exists_answers (serves : Serves format session id state) (message : Message) :
    ∃ answer next, Answers session state message answer next := by
  cases message with
  | setLeft argument =>
      rcases serves.integer_cases argument with ⟨number, parsed⟩ | ⟨failure, unparsed⟩
      · exact ⟨_, _, .setLeft parsed⟩
      · exact ⟨_, _, .unparsed rfl unparsed⟩
  | setRight argument =>
      rcases serves.integer_cases argument with ⟨number, parsed⟩ | ⟨failure, unparsed⟩
      · exact ⟨_, _, .setRight parsed⟩
      · exact ⟨_, _, .unparsed rfl unparsed⟩
  | isEven argument =>
      rcases serves.integer_cases argument with ⟨number, parsed⟩ | ⟨failure, unparsed⟩
      · exact ⟨_, _, .isEven parsed decide_eq_true_iff⟩
      · exact ⟨_, _, .unparsed rfl unparsed⟩
  | sum =>
      by_cases fits : FitsInt64 (state.left.toInt + state.right.toInt)
      · exact ⟨_, _, .sum (Decimal.toInt_ofInt_of_fits fits)⟩
      · exact ⟨_, _, .overflow fits⟩
  | quotient =>
      by_cases blamed : state.right = 0 ∨ (state.left = Int64.minValue ∧ state.right = -1)
      · exact ⟨_, _, .divideByZero blamed⟩
      · obtain ⟨divides, other⟩ := not_or.mp blamed
        have fits := (fitsInt64_quotient_iff state).mpr other
        exact ⟨_, _, .quotient divides (Decimal.toInt_ofInt_of_fits fits)⟩

/-- A call of a calculator has exactly the answer, and leaves exactly the operands, that its
operands determine. -/
theorem Serves.answers_iff (serves : Serves format session id state) (message : Message)
    (answer : Except Failure TypedValue) (next : Calculator) :
    Answers session state message answer next ↔
      (session.call id message.member message.arguments).1 = answer ∧
        Holds (session.call id message.member message.arguments).2 id next := by
  refine ⟨fun answers => answers.call_eq serves, ?_⟩
  rintro ⟨returned, holds⟩
  -- There is an answer in any case, and the call comes to it, so it is this one.
  obtain ⟨actual, left, answers⟩ := serves.exists_answers message
  obtain ⟨same, leaves⟩ := answers.call_eq serves
  rw [← returned, same, leaves.unique holds]
  exact answers

end Step

/-! ## Courses of calls -/

/-- Operations that call a calculator, one after another. The operands at the time of a call
determine its answer, which the dialect composes for the operation, and the operands behind it,
from which the course goes on. -/
inductive Course (id : String) : Session → Calculator → List Operation → Prop where
  | nil {session : Session} {state : Calculator} : Course id session state []
  | cons {session : Session} {state next : Calculator} {operation : Operation}
      {operations : List Operation} {message : Message} {answer : Except Failure TypedValue} :
      operation.Calls id message.member message.arguments →
      (∀ other left, Answers session state message other left ↔
        other = answer ∧ left = next) →
      (session.call id message.member message.arguments).1 = answer →
      (session.run operation).1 = answer >>= session.dialect.compose →
      Holds (session.run operation).2 id next →
      Course id (session.run operation).2 next operations →
      Course id session state (operation :: operations)

/-- Whether its result is assigned or not, a call yields what the dialect composes for it. -/
theorem result_of_calls {operation : Operation} {member : String}
    {arguments : List (Tree String)} (calls : operation.Calls id member arguments) :
    (session.run operation).1 =
      (session.call id member arguments).1 >>= session.dialect.compose := by
  show _ = (session.callComposed id member arguments).1
  cases calls with
  | call => rfl
  | callAndAssign symbol =>
      cases composed : (session.callComposed id member arguments).1 with
      | error failure => rw [Session.run_callAndAssign_of_error composed]
      | ok tree => rw [Session.run_callAndAssign_of_ok composed]

variable [Pattern.Library]

section Run

variable {format : NumberFormat} {operations : List Operation}

theorem Serves.run (serves : Serves format session id state) {operation : Operation}
    {message : Message} (calls : operation.Calls id message.member message.arguments)
    (holds : Holds (session.call id message.member message.arguments).2 id next) :
    Serves format (session.run operation).2 id next where
  standard := (session.run_setting operation).2.trans serves.standard
  holds := by
    unfold Holds at holds ⊢
    rw [(session.tables_of_calls calls).1]
    exact holds

/-- The induction is on the operations: each one leaves a session that serves the calculator
with the operands behind it. -/
theorem Serves.course (serves : Serves format session id state)
    (calls : ∀ operation ∈ operations,
      ∃ message : Message, operation.Calls id message.member message.arguments) :
    Course id session state operations := by
  induction operations generalizing session state with
  | nil => exact .nil
  | cons operation operations inductionHypothesis =>
      obtain ⟨⟨message, here⟩, later⟩ := List.forall_mem_cons.mp calls
      obtain ⟨answer, next, answers⟩ := serves.exists_answers message
      obtain ⟨returned, holds⟩ := answers.call_eq serves
      have behind := serves.run here holds
      refine .cons here ?_ returned ?_ behind.holds (inductionHypothesis behind later)
      · intro other left
        rw [serves.answers_iff, returned]
        constructor
        · rintro ⟨same, alsoHolds⟩
          exact ⟨same.symm, holds.unique alsoHolds⟩
        · rintro ⟨rfl, rfl⟩
          exact ⟨rfl, holds⟩
      · rw [result_of_calls here, returned]

omit [Pattern.Library] in
/-- A new calculator starts with two zeros. -/
theorem construct_calculator {className : String}
    (resolved : session.classFor className = .ok calculator) :
    session.construct className [] =
      .ok ⟨calculator, .fields (calculatorState.store ⟨0, 0⟩)⟩ := by
  have enters : session.EntersConstructor className [] calculator
      (calculatorState.constructor [] fun _ => .ok ⟨0, 0⟩) [] := ⟨resolved, rfl, rfl⟩
  rw [enters.construct_eq]
  rfl

/-- Whatever is called, a new calculator counts as the integers do, and a failed call keeps its
operands. Only the blame of a division is not always right: it falls on a zero for the one
quotient, too, that does not fit. -/
theorem make_course {className : String}
    (standard : session.dialect = Dialect.standard.withFormat format)
    (resolved : session.classFor className = .ok calculator)
    (calls : ∀ operation ∈ operations,
      ∃ message : Message, operation.Calls id message.member message.arguments) :
    (session.run (.make id className [])).1 = .ok (.text Session.okText) ∧
      Holds (session.run (.make id className [])).2 id ⟨0, 0⟩ ∧
      Course id (session.run (.make id className [])).2 ⟨0, 0⟩ operations := by
  have constructed := construct_calculator resolved
  have serves : Serves format (session.run (.make id className [])).2 id ⟨0, 0⟩ := by
    rw [Session.run_make_of_ok constructed]
    exact ⟨standard, session.instances.find?_bind_self id _⟩
  refine ⟨?_, serves.holds, serves.course calls⟩
  rw [Session.run_make_of_ok constructed]

end Run

end ListInvocation.Demo

namespace ListInvocation.Demo

open Decimal (FitsInt64)

/-- A session in which the name of the class can be left unqualified. -/
def importing : Session :=
  ((Session.start registry .standard).run (.importPath "demo")).2

/-- Calls at the upper end of 64 bits, one with an argument that is a result, and one with an
argument that is no integer. -/
def carriedCalls : List Operation := [
  .call "c" "setLeft" [.text "9223372036854775807"],
  .call "c" "setRight" [.text "-2"],
  .callAndAssign "q" "c" "quotient" [],
  .call "c" "setRight" [.text "1"],
  .call "c" "sum" [],
  .call "c" "setLeft" [.text "$q"],
  .call "c" "setLeft" [.text "9223372036854775808"],
  .call "c" "isEven" [.text "-4"]]

theorem make_course_carriedCalls :
    importing.dialect = Dialect.standard.withFormat .invariant ∧
      importing.classFor "Calculator" = .ok calculator ∧
      (∀ operation ∈ carriedCalls,
        ∃ message : Message, operation.Calls "c" message.member message.arguments) ∧
      Course "c" (importing.run (.make "c" "Calculator" [])).2 ⟨0, 0⟩ carriedCalls := by
  have resolved : importing.classFor "Calculator" = .ok calculator := by
    with_unfolding_all rfl
  have calls : ∀ operation ∈ carriedCalls,
      ∃ message : Message, operation.Calls "c" message.member message.arguments := by
    simp only [carriedCalls, List.forall_mem_cons]
    exact ⟨⟨.setLeft _, .call⟩, ⟨.setRight _, .call⟩, ⟨.quotient, .callAndAssign _⟩,
      ⟨.setRight _, .call⟩, ⟨.sum, .call⟩, ⟨.setLeft _, .call⟩, ⟨.setLeft _, .call⟩,
      ⟨.isEven _, .call⟩, nofun⟩
  exact ⟨rfl, resolved, calls, (make_course rfl resolved calls).2.2⟩

/-- The least integer by minus one: the right operand is no zero, and is blamed as one. -/
theorem quotient_blamesZero :
    let made := (importing.run (.make "c" "Calculator" [])).2
    let leftSet := (made.run (.call "c" "setLeft" [.text "-9223372036854775808"])).2
    let bothSet := (leftSet.run (.call "c" "setRight" [.text "-1"])).2
    Holds bothSet "c" ⟨Int64.minValue, -1⟩ ∧
      ¬ FitsInt64 (Int64.minValue.toInt.tdiv (-1)) ∧
      (bothSet.call "c" "quotient" []).1 =
        .error (.fixture "DivideByZero" "right operand is zero") := by
  refine ⟨?_, by decide, ?_⟩
  · with_unfolding_all rfl
  · with_unfolding_all rfl

end ListInvocation.Demo
