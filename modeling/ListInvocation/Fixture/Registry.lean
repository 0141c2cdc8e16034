import ListInvocation.Fixture.Class

/-!
Contract: the classes that a host offers, found by name.

Owns: registration, and resolution of a name literally or below a search path.

Does not own: instances of the classes.
-/

namespace ListInvocation

/-- Registered classes in the order of their names, one for each name. -/
structure Registry where
  classes : List FixtureClass

namespace Registry

def empty : Registry := ⟨[]⟩

/-- Puts a class at its place in the order, in place of one of the same name. -/
def insertClass (fixture : FixtureClass) : List FixtureClass → List FixtureClass
  | [] => [fixture]
  | other :: rest =>
      if fixture.name = other.name then fixture :: rest
      else if fixture.name < other.name then fixture :: other :: rest
      else other :: insertClass fixture rest

/-- Adds a class, in place of one of the same name. -/
def register (registry : Registry) (fixture : FixtureClass) : Registry :=
  ⟨insertClass fixture registry.classes⟩

def ofClasses (classes : List FixtureClass) : Registry :=
  classes.foldl register empty

def names (registry : Registry) : List String :=
  registry.classes.map FixtureClass.name

def find? (registry : Registry) (name : String) : Option FixtureClass :=
  registry.classes.find? (fun fixture => fixture.name == name)

def qualified (path name : String) : String :=
  path ++ "." ++ name

/-- The class of that name, or else the one below the first path that has it. -/
def resolve (registry : Registry) (name : String) (searchPath : List String) :
    Except Failure FixtureClass :=
  match registry.find? name with
  | some fixture => .ok fixture
  | none =>
      match searchPath.findSome? (fun path => registry.find? (qualified path name)) with
      | some fixture => .ok fixture
      | none => .error (.typeMissing name searchPath)

end Registry

end ListInvocation
