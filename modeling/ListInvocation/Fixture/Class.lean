import ListInvocation.Fixture.Arguments

/-!
Contract: fixture classes, the code that instructions can reach.

An object is a list of typed values, its fields. A constructor computes the fields of
a new object; a method computes a result and the fields afterwards. Neither can reach
anything but the object it runs on.

Owns: constructors, methods, classes, the look-up by name and arity, and calls.

Does not own: which objects exist, and under which names.
-/

namespace ListInvocation

abbrev Fields := List TypedValue

structure Constructor where
  parameters : List ValueType
  build : Arguments → Except Failure Fields

/-- A method with the types of its parameters and of its result. -/
structure Method where
  name : String
  parameters : List ValueType
  returns : ValueType
  body : Fields → Arguments → Except Failure Value × Fields

/-- A method that changes its object, or fails, and returns nothing. -/
def Method.action (name : String) (parameters : List ValueType)
    (change : Fields → Arguments → Except Failure Fields) : Method where
  name := name
  parameters := parameters
  returns := .void
  body fields arguments :=
    match change fields arguments with
    | .ok changed => (.ok .null, changed)
    | .error failure => (.error failure, fields)

/-- A method that only reads its object. -/
def Method.query (name : String) (parameters : List ValueType) (returns : ValueType)
    (read : Fields → Arguments → Except Failure Value) : Method where
  name := name
  parameters := parameters
  returns := returns
  body fields arguments := (read fields arguments, fields)

def Method.typedResult (method : Method) (value : Value) : TypedValue :=
  if method.returns = .void then .void else ⟨method.returns, value⟩

/-- A named class. Of several constructors or methods that fit, the first one counts. -/
structure FixtureClass where
  name : String
  constructors : List Constructor
  methods : List Method

namespace FixtureClass

def constructor? (fixture : FixtureClass) (arity : Nat) : Option Constructor :=
  fixture.constructors.find? (fun candidate => candidate.parameters.length == arity)

def method? (fixture : FixtureClass) (name : String) (arity : Nat) : Option Method :=
  fixture.methods.find?
    (fun candidate => candidate.name == name && candidate.parameters.length == arity)

end FixtureClass

/-- What an instance holds: an object of its own class, or one of another type. -/
inductive FixtureObject where
  | fields (fields : Fields)
  | foreign

/-- Runs a method on an object that is held under a class. -/
def Method.invoke (method : Method) (className : String) (object : FixtureObject)
    (arguments : Arguments) : Except Failure TypedValue × FixtureObject :=
  match object with
  | .foreign =>
      (.error (.fixture "InstanceTypeMismatch" s!"held instance is not a {className}"), object)
  | .fields fields =>
      let (result, changed) := method.body fields arguments
      (result.map method.typedResult, .fields changed)

end ListInvocation
