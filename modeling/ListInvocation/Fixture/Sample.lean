import ListInvocation.Fixture.StoredState
import ListInvocation.Fixture.Registry
import ListInvocation.Decimal.Natural

/-!
Contract: sample classes that use every kind of parameter and result.

Owns: a calculator with a running total, with overloaded and absent members, and a
helper whose members overlap with it.

Does not own: the classes of the command-line server.
-/

namespace ListInvocation.Sample

def totalState : StoredState Int64 where
  store total := [.int total]
  load
    | [⟨_, .int total⟩] => total
    | _ => 0
  load_store _ := rfl

/-- The decimal digits of a total, without its sign. -/
def digitsOf (total : Int64) : List Nat :=
  (Decimal.digits total.toInt.natAbs).map Decimal.digitValue

def digitList (digits : List Nat) : Value :=
  .list (digits.map fun digit => .int (Int64.ofNat digit))

/-- Half of a total that fits 32 bits, else zero. -/
def half (total : Int64) : Binary64 :=
  if -0x80000000 ≤ total.toInt ∧ total.toInt < 0x80000000 then
    .ofRatio (total < 0) total.toInt.natAbs 2
  else
    .ofInt 0

/-- The total divided and truncated toward zero. -/
def divide (total divisor : Int64) : Except Failure Value :=
  if divisor = 0 then .error (.fixture "DivideByZero" "cannot divide by zero")
  else .ok (.int (total / divisor))

def sumOf (values : List TypedValue) : Int64 :=
  (values.filterMap fun item => item.value.asInt?).foldl (· + ·) 0

def calculator : FixtureClass where
  name := "demo.Calculator"
  constructors := [
    totalState.constructor [] fun _ => .ok 0,
    totalState.constructor [.int] fun arguments => arguments.int 0]
  methods := [
    totalState.action "add" [.int] fun total arguments => do
      return total + (← arguments.int 0),
    totalState.query "total" [] .int fun total _ => .ok (.int total),
    totalState.query "isPositive" [] .bool fun total _ => .ok (.bool (0 < total)),
    totalState.query "half" [] .float fun total _ => .ok (.float (half total)),
    totalState.query "divide" [.int] .int fun total arguments => do
      divide total (← arguments.int 0),
    totalState.query "echo" [.text] .text fun _ arguments => do
      return .text (← arguments.text 0),
    totalState.query "pick" [.int] .text fun _ _ => .ok (.text "first"),
    totalState.query "pick" [.text] .text fun _ _ => .ok (.text "second"),
    totalState.query "nothing" [] .text fun _ _ => .ok .null,
    totalState.query "digits" [] (.list .int) fun total _ =>
      .ok (digitList (digitsOf total)),
    totalState.query "oddDigits" [] (.list .int) fun total _ =>
      .ok (digitList ((digitsOf total).filter fun digit => digit % 2 == 1)),
    totalState.query "sum" [.list .int] .int fun _ arguments => do
      return .int (sumOf (← arguments.list 0))]

def greetingState : StoredState String where
  store greeting := [.text greeting]
  load
    | [⟨_, .text greeting⟩] => greeting
    | _ => ""
  load_store _ := rfl

def helper : FixtureClass where
  name := "demo.Helper"
  constructors := [greetingState.constructor [.text] fun arguments => arguments.text 0]
  methods := [
    greetingState.query "greet" [.text] .text fun greeting arguments => do
      return .text (greeting ++ " " ++ (← arguments.text 0)),
    greetingState.query "total" [] .int fun _ _ => .ok (.int (-1))]

def registry : Registry :=
  .ofClasses [calculator, helper]

end ListInvocation.Sample
