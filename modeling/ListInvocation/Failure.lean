import ListInvocation.ValueType

/-!
Contract: what can go wrong while an instruction is carried out.

Failures are results: a caller receives the text of a failure in place of a value.

Owns: the causes, the protocol code of each with its arguments, and the wording.

Does not own: failures of the byte stream, the configuration or the server.
-/

namespace ListInvocation

inductive Capability where
  | compose
  | parse
  | compare
  | invoke
  | runTest
deriving Repr, DecidableEq, Inhabited

def Capability.name : Capability → String
  | .compose => "compose"
  | .parse => "parse"
  | .compare => "compare"
  | .invoke => "invoke"
  | .runTest => "run_test"

inductive Failure where
  /-- No class of that name is registered, literally or below a searched path. -/
  | typeMissing (className : String) (searched : List String)
  /-- The class has no constructor with that number of parameters. -/
  | constructorMissing (className : String) (arity : Nat)
  /-- Neither the class nor a library offers the member with that number of parameters. -/
  | memberMissing (className member : String) (arity : Nat)
  /-- No instance is bound to the identifier. -/
  | instanceMissing (id : String)
  /-- The tree is not an instruction; its elements are kept as texts. -/
  | malformedInstruction (elements : List String)
  /-- No rule of the chain accepts the declared type. -/
  | operatorMissing (capability : Capability) (declared : ValueType)
  /-- The text does not denote a value of the target type. -/
  | parseFailed (target : ValueType) (text : String)
  /-- Fixture code failed, with its own kind and message. -/
  | fixture (typeName message : String)
  /-- A tree has no branch at the path. -/
  | pathOutOfRange (path : List Nat)
deriving Repr, DecidableEq, Inhabited

namespace Failure

/-- The protocol code of a failure that the caller can classify. -/
def code? : Failure → Option String
  | .typeMissing _ _ => some "NO_CLASS"
  | .constructorMissing _ _ => some "NO_CONSTRUCTOR"
  | .memberMissing _ _ _ => some "NO_METHOD_IN_CLASS"
  | .instanceMissing _ => some "NO_INSTANCE"
  | .malformedInstruction _ => some "MALFORMED_INSTRUCTION"
  | .operatorMissing _ _ | .parseFailed _ _ | .fixture _ _ | .pathOutOfRange _ => none

def codeArguments : Failure → List String
  | .typeMissing className _ | .constructorMissing className _ => [className]
  | .memberMissing className member _ => [member, className]
  | .instanceMissing id => [id]
  | .malformedInstruction elements => [String.intercalate "," elements]
  | .operatorMissing _ _ | .parseFailed _ _ | .fixture _ _ | .pathOutOfRange _ => []

/-- The code and its arguments in the block that callers recognise, empty without a code. -/
def messageBlock (failure : Failure) : String :=
  match failure.code? with
  | some code =>
      "message:<<" ++ String.intercalate " " (code :: failure.codeArguments) ++ ">> "
  | none => ""

def searchedLabel (searched : List String) : String :=
  if searched.isEmpty then "<none>" else String.intercalate ", " searched

def message : Failure → String
  | .typeMissing className searched =>
      s!"type '{className}' not found (searched: {searchedLabel searched})"
  | .constructorMissing className arity =>
      s!"constructor with {arity} parameter(s) not found for type '{className}'"
  | .memberMissing className member arity =>
      s!"member '{member}' with {arity} parameter(s) not found for type '{className}'"
  | .instanceMissing id => s!"instance '{id}' not found"
  | .malformedInstruction elements =>
      "malformed instruction [" ++ String.intercalate "," elements ++ "]"
  | .operatorMissing capability declared =>
      s!"no {capability.name} operator accepts type '{declared.name}'"
  | .parseFailed target text => s!"cannot parse '{text}' as {target.name}"
  | .fixture typeName message => s!"{typeName}: {message}"
  | .pathOutOfRange path =>
      "tree path out of range: [" ++ String.intercalate "," (path.map Nat.repr) ++ "]"

/-- The mark at the start of every failure text. -/
def exceptionMark : String := "__EXCEPTION__:"

def exceptionText (failure : Failure) : String :=
  exceptionMark ++ failure.messageBlock ++ failure.message

end Failure

end ListInvocation
