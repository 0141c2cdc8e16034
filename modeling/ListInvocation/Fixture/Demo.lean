import ListInvocation.Fixture.StoredState
import ListInvocation.Fixture.Registry
import ListInvocation.Decimal.Scientific

/-!
Contract: the classes that the command-line server offers.

Owns: a calculator on two integers and a greeter.

Does not own: how they are served.
-/

namespace ListInvocation.Demo

structure Calculator where
  left : Int64
  right : Int64
deriving Repr, DecidableEq

def calculatorState : StoredState Calculator where
  store state := [.int state.left, .int state.right]
  load
    | [⟨_, .int left⟩, ⟨_, .int right⟩] => ⟨left, right⟩
    | _ => ⟨0, 0⟩
  load_store _ := rfl

/-- The sum of the operands, which must fit 64 bits. -/
def sum (state : Calculator) : Except Failure Value :=
  match Decimal.toInt64? (state.left.toInt + state.right.toInt) with
  | some sum => .ok (.int sum)
  | none => .error (.fixture "Overflow" "sum exceeds the integer range")

/-- The quotient of the operands, truncated toward zero. A quotient that does not fit
64 bits fails like a division by zero. -/
def quotient (state : Calculator) : Except Failure Value :=
  let failed := Except.error (.fixture "DivideByZero" "right operand is zero")
  if state.right = 0 then failed
  else
    match Decimal.toInt64? (state.left.toInt.tdiv state.right.toInt) with
    | some quotient => .ok (.int quotient)
    | none => failed

def calculator : FixtureClass where
  name := "demo.Calculator"
  constructors := [calculatorState.constructor [] fun _ => .ok ⟨0, 0⟩]
  methods := [
    calculatorState.action "setLeft" [.int] fun state arguments => do
      return { state with left := ← arguments.int 0 },
    calculatorState.action "setRight" [.int] fun state arguments => do
      return { state with right := ← arguments.int 0 },
    calculatorState.query "sum" [] .int fun state _ => sum state,
    calculatorState.query "quotient" [] .int fun state _ => quotient state,
    calculatorState.query "isEven" [.int] .bool fun _ arguments => do
      return .bool ((← arguments.int 0) % 2 == 0)]

structure Greeter where
  name : String
deriving Repr, DecidableEq

def greeterState : StoredState Greeter where
  store state := [.text state.name]
  load
    | [⟨_, .text name⟩] => ⟨name⟩
    | _ => ⟨""⟩
  load_store _ := rfl

def greeter : FixtureClass where
  name := "demo.Greeter"
  constructors := [greeterState.constructor [.text] fun arguments => do
    return ⟨← arguments.text 0⟩]
  methods := [
    greeterState.query "greet" [] .text fun state _ =>
      .ok (.text ("Hello, " ++ state.name ++ "!")),
    greeterState.action "rename" [.text] fun _ arguments => do
      return ⟨← arguments.text 0⟩]

def registry : Registry :=
  .ofClasses [calculator, greeter]

end ListInvocation.Demo
