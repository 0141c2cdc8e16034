import ListInvocation.Tree
import ListInvocation.Fixture.Instances

/-!
Contract: rules that choose the instance on which a member runs.

A rule sees the bound instances and a request; running a member parses its arguments
first, so that its body is entered with exactly the arguments it declares.

Owns: requests, the type of such rules, and the two standard ones: the instance that
the request names, and the most recent library instance that has the member.

Does not own: the choice of a rule from a chain, or the parsing of arguments.
-/

namespace ListInvocation

/-- A call of a member of an instance, with its argument trees. -/
structure Request where
  target : String
  member : String
  arguments : List (Tree String)
deriving Repr, DecidableEq

def Request.arity (request : Request) : Nat :=
  request.arguments.length

abbrev ArgumentParser := List ValueType → List (Tree String) → Except Failure Arguments

abbrev Invoked := Except Failure TypedValue × InstanceTable

/-- A rule that carries out the requests it accepts. -/
structure InvokeRule where
  accepts : InstanceTable → Request → Bool
  invoke : ArgumentParser → InstanceTable → Request → Invoked

namespace Invocation

def invokeOn (parser : ArgumentParser) (table : InstanceTable) (id : String)
    (request : Request) : Invoked :=
  match table.require id with
  | .error failure => (.error failure, table)
  | .ok bound =>
      match bound.fixture.method? request.member request.arity with
      | none =>
          (.error (.memberMissing bound.fixture.name request.member request.arity), table)
      | some method =>
          match parser method.parameters request.arguments with
          | .error failure => (.error failure, table)
          | .ok arguments =>
              let (result, object) :=
                method.invoke bound.fixture.name bound.object arguments
              (result, table.withObject id object)

def offers (table : InstanceTable) (request : Request) (id : String) : Bool :=
  match table.find? id with
  | some bound => (bound.fixture.method? request.member request.arity).isSome
  | none => false

/-- The most recent library instance that has the requested member. -/
def library? (table : InstanceTable) (request : Request) : Option String :=
  table.libraryIds.find? (offers table request)

/-- The failure of a request that no instance can answer; it names the target's class. -/
def unanswered (table : InstanceTable) (request : Request) : Failure :=
  match table.require request.target with
  | .error failure => failure
  | .ok bound => .memberMissing bound.fixture.name request.member request.arity

def direct : InvokeRule where
  accepts table request := offers table request request.target
  invoke parser table request := invokeOn parser table request.target request

/-- The most recent library instance that has the member. -/
def library : InvokeRule where
  accepts table request := (library? table request).isSome
  invoke parser table request :=
    match library? table request with
    | some id => invokeOn parser table id request
    | none => (.error (unanswered table request), table)

def standard : List InvokeRule :=
  [direct, library]

end Invocation

end ListInvocation
