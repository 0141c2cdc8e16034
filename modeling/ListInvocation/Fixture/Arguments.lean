import ListInvocation.Value

/-!
Contract: the arguments that fixture code receives, read by position and kind.

Owns: the accessors and the failures of an argument that is missing, absent or of
another kind.

Does not own: the parsing of arguments from text.
-/

namespace ListInvocation

/-- The values handed to a constructor or a method, in order. -/
abbrev Arguments := List TypedValue

namespace Arguments

def typed (arguments : Arguments) (position : Nat) : Except Failure TypedValue :=
  match arguments[position]? with
  | some argument => .ok argument
  | none => .error (.fixture "ArgumentMissing" s!"no argument at position {position}")

/-- The argument at a position, which must not be null. -/
def present (arguments : Arguments) (position : Nat) : Except Failure Value := do
  let argument ← arguments.typed position
  if argument.isNull then
    throw (.fixture "ArgumentNull" s!"argument {position} is null")
  return argument.value

/-- The argument at a position, seen as one kind of value. -/
def viewed {α : Type} (view : Value → Option α) (kind : String) (arguments : Arguments)
    (position : Nat) : Except Failure α := do
  match view (← arguments.present position) with
  | some value => return value
  | none => throw (.fixture "ArgumentType" s!"argument {position} is not {kind}")

def bool : Arguments → Nat → Except Failure Bool :=
  viewed Value.asBool? "bool"

def int : Arguments → Nat → Except Failure Int64 :=
  viewed Value.asInt? "int"

def float : Arguments → Nat → Except Failure Binary64 :=
  viewed Value.asFloat? "float"

def text : Arguments → Nat → Except Failure String :=
  viewed Value.asText? "text"

def list : Arguments → Nat → Except Failure (List TypedValue) :=
  viewed Value.asList? "list"

end Arguments

end ListInvocation
