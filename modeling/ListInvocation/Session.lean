import ListInvocation.Dialect
import ListInvocation.Fixture.Registry
import ListInvocation.Symbols
import ListInvocation.Instruction

/-!
Contract: the state of one caller and the execution of its instructions.

A batch is a list of instructions, carried out in order; each one yields an entry of
its identifier and its result, and a failed one yields the text of its failure without
ending the batch.

Owns: the state, its operations, and batches.

Does not own: messages and frames, or the rules of the dialect.
-/

namespace ListInvocation

/-- The instances, symbols and search path of one caller. -/
structure Session where
  registry : Registry
  dialect : Dialect
  instances : InstanceTable
  symbols : SymbolTable
  searchPath : List String

structure Outcome where
  id : String
  result : Tree String
  failure? : Option Failure

/-- The entry of an outcome in the answer to a batch. -/
def Outcome.entry (outcome : Outcome) : Tree String :=
  .list [.text outcome.id, outcome.result]

structure BatchOutcome where
  outcomes : List Outcome

namespace BatchOutcome

def results (batch : BatchOutcome) : Tree String :=
  .list (batch.outcomes.map Outcome.entry)

def executed (batch : BatchOutcome) : Nat :=
  batch.outcomes.length

def failures (batch : BatchOutcome) : Nat :=
  batch.outcomes.countP fun outcome => outcome.failure?.isSome

end BatchOutcome

namespace Session

/-- The result of an instruction that has nothing else to say. -/
def okText : String := "OK"

def start (registry : Registry) (dialect : Dialect) : Session :=
  ⟨registry, dialect, .empty, .empty, []⟩

/-- Forgets all instances, symbols and paths. -/
def finish (session : Session) : Session :=
  start session.registry session.dialect

variable [Text.Alphabet]

def construct (session : Session) (className : String) (arguments : List (Tree String)) :
    Except Failure Instance := do
  let fixture ←
    session.registry.resolve (session.symbols.substituteText className) session.searchPath
  match fixture.constructor? arguments.length with
  | none => throw (.constructorMissing fixture.name arguments.length)
  | some constructor =>
      let values ← session.dialect.parseArguments constructor.parameters
        (session.symbols.substituteAll arguments)
      let fields ← constructor.build values
      return ⟨fixture, .fields fields⟩

/-- Constructs an object and binds it; a failure binds nothing. -/
def make (session : Session) (target className : String)
    (arguments : List (Tree String)) : Except Failure Unit × Session :=
  match session.construct className arguments with
  | .error failure => (.error failure, session)
  | .ok bound =>
      (.ok (), { session with instances := session.instances.bind target bound })

def call (session : Session) (target member : String) (arguments : List (Tree String)) :
    Except Failure TypedValue × Session :=
  let (result, instances) := session.dialect.invoke session.instances
    ⟨target, member, session.symbols.substituteAll arguments⟩
  (result, { session with instances := instances })

def importPath (session : Session) (path : String) : Session :=
  if session.searchPath.contains path then session
  else { session with searchPath := session.searchPath ++ [path] }

def assign (session : Session) (symbol : String) (tree : Tree String) : Session :=
  { session with symbols := session.symbols.assign symbol tree }

def callComposed (session : Session) (target member : String)
    (arguments : List (Tree String)) : Except Failure (Tree String) × Session :=
  let (result, session) := session.call target member arguments
  (result >>= session.dialect.compose, session)

def run (session : Session) : Operation → Except Failure (Tree String) × Session
  | .make target className arguments =>
      let (result, session) := session.make target className arguments
      (result.map fun _ => .text okText, session)
  | .call target member arguments => session.callComposed target member arguments
  | .callAndAssign symbol target member arguments =>
      let (result, session) := session.callComposed target member arguments
      match result with
      | .ok tree => (.ok tree, session.assign symbol tree)
      | .error failure => (.error failure, session)
  | .importPath path => (.ok (.text okText), session.importPath path)
  | .assign symbol value =>
      (.ok (.text okText), session.assign symbol (session.symbols.substitute value))

/-- The result in place of a failed instruction's: the failure as the dialect composes
it, or its plain exception text. -/
def composeFailure (session : Session) (failure : Failure) : Tree String :=
  match session.dialect.compose (.failure failure) with
  | .ok tree => tree
  | .error _ => .text failure.exceptionText

def outcomeOf (session : Session) (id : String) :
    Except Failure (Tree String) → Outcome
  | .ok result => ⟨id, result, none⟩
  | .error failure => ⟨id, session.composeFailure failure, some failure⟩

/-- Carries out one instruction; whatever happens, there is an outcome. -/
def executeInstruction (session : Session) (tree : Tree String) : Outcome × Session :=
  match Instruction.decode tree with
  | .error failure =>
      (session.outcomeOf (Instruction.peekId tree) (.error failure), session)
  | .ok instruction =>
      let (result, session) := session.run instruction.operation
      (session.outcomeOf instruction.id result, session)

def executeAll (session : Session) : List (Tree String) → List Outcome × Session
  | [] => ([], session)
  | tree :: trees =>
      let (outcome, session) := session.executeInstruction tree
      let (outcomes, session) := session.executeAll trees
      (outcome :: outcomes, session)

/-- The instructions of a batch. A leaf that holds text counts as one instruction, so
that it is answered. -/
def instructionsOf : Tree String → List (Tree String)
  | .leaf value => if value.isEmpty then [] else [.leaf value]
  | .node _ branches => branches

def execute (session : Session) (batch : Tree String) : BatchOutcome × Session :=
  let (outcomes, session) := session.executeAll (instructionsOf batch)
  (⟨outcomes⟩, session)

end Session

end ListInvocation
