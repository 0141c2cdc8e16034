import ListInvocation.Fixture.Class

/-!
Contract: the objects of a session under the identifiers they are bound to.

The instances are kept under their identifiers, and the identifiers in the order in which
they were bound; binding an identifier again moves it to the end.

Owns: the table, its look-ups, and the library instances that members fall back to.

Does not own: construction of objects, or the choice of a method.
-/

namespace ListInvocation

/-- An object together with the class it was made from. -/
structure Instance where
  fixture : FixtureClass
  object : FixtureObject

structure InstanceTable where
  /-- The bound instances, one for each identifier. -/
  entries : List (String × Instance)
  /-- The bound identifiers, the oldest binding first. -/
  order : List String

namespace InstanceTable

def empty : InstanceTable := ⟨[], []⟩

/-- Binds an identifier, in place of its earlier binding, as the most recent one. -/
def bind (table : InstanceTable) (id : String) (bound : Instance) : InstanceTable where
  entries := (id, bound) :: table.entries.filter (fun entry => entry.1 != id)
  order := table.order.filter (fun existing => existing != id) ++ [id]

def find? (table : InstanceTable) (id : String) : Option Instance :=
  table.entries.lookup id

/-- The instance bound to an identifier, or the failure that there is none. -/
def require (table : InstanceTable) (id : String) : Except Failure Instance :=
  match table.find? id with
  | some bound => .ok bound
  | none => .error (.instanceMissing id)

def contains (table : InstanceTable) (id : String) : Bool :=
  (table.find? id).isSome

def size (table : InstanceTable) : Nat :=
  table.entries.length

/-- Replaces the object of a bound instance and keeps its class and its place. -/
def withObject (table : InstanceTable) (id : String) (object : FixtureObject) :
    InstanceTable :=
  { table with
    entries := table.entries.map fun entry =>
      if entry.1 == id then (entry.1, { entry.2 with object := object }) else entry }

/-- How the identifiers of library instances start. -/
def libraryMark : String := "library"

def isLibraryId (id : String) : Bool :=
  libraryMark.toList.isPrefixOf id.toList

/-- The identifiers of library instances, the most recent binding first. -/
def libraryIds (table : InstanceTable) : List String :=
  table.order.reverse.filter isLibraryId

end InstanceTable

end ListInvocation
