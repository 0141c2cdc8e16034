import ListInvocation.Fixture.Class

/-!
Contract: fixture classes described as data.

A recipe says what a method does in terms of its arguments and of the fields of its
object; the fields of a new object are the constructor's arguments.

Owns: recipes and the classes, constructors and methods made from them.

Does not own: classes with code of their own.
-/

namespace ListInvocation

inductive Recipe where
  /-- Returns a fixed value. -/
  | constant (value : Value)
  /-- Returns an argument, whatever its kind. -/
  | argument (position : Nat)
  /-- Returns an argument that must be a truth value. -/
  | boolArgument (position : Nat)
  /-- Returns an argument that must be an integer. -/
  | intArgument (position : Nat)
  /-- Returns an argument that must be a number, as a float. -/
  | floatArgument (position : Nat)
  /-- Returns an argument that must be a text. -/
  | textArgument (position : Nat)
  /-- Returns an argument that must be a list. -/
  | listArgument (position : Nat)
  /-- Returns the number of arguments. -/
  | argumentCount
  /-- Returns whether there are no arguments. -/
  | noArguments
  /-- Appends all arguments to the fields. -/
  | push
  /-- Returns a field, or nothing beyond the last one. -/
  | field (position : Nat)
  /-- Returns all fields. -/
  | allFields
  /-- Fails. -/
  | raise (failure : Failure)

namespace Recipe

/-- The result of a recipe that leaves the fields alone. -/
def result (fields : Fields) (arguments : Arguments) : Recipe → Except Failure Value
  | .constant value => .ok value
  | .argument position => (arguments.typed position).map TypedValue.value
  | .boolArgument position => (arguments.bool position).map Value.bool
  | .intArgument position => (arguments.int position).map Value.int
  | .floatArgument position => (arguments.float position).map Value.float
  | .textArgument position => (arguments.text position).map Value.text
  | .listArgument position => (arguments.list position).map Value.list
  | .argumentCount => .ok (.int (Int64.ofNat (List.length arguments)))
  | .noArguments => .ok (.bool (List.isEmpty arguments))
  | .push => .ok .null
  | .field position => .ok ((fields[position]?.map TypedValue.value).getD .null)
  | .allFields => .ok (.list fields)
  | .raise failure => .error failure

def run (recipe : Recipe) (fields : Fields) (arguments : Arguments) :
    Except Failure Value × Fields :=
  let changed :=
    match recipe with
    | .push => fields ++ arguments
    | _ => fields
  (recipe.result fields arguments, changed)

end Recipe

/-- A constructor whose arguments become the fields, unless it is to fail. -/
def Constructor.ofParameters (parameters : List ValueType) (failure? : Option Failure) :
    Constructor where
  parameters := parameters
  build arguments :=
    match failure? with
    | some failure => .error failure
    | none => (List.range parameters.length).mapM arguments.typed

/-- A method that follows a recipe; without a result type it returns nothing. -/
def Method.ofRecipe (name : String) (parameters : List ValueType)
    (returns? : Option ValueType) (recipe : Recipe) : Method where
  name := name
  parameters := parameters
  returns := returns?.getD .void
  body := recipe.run

end ListInvocation
