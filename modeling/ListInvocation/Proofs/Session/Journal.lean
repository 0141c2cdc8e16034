import ListInvocation.Proofs.Dialect.Movement
import ListInvocation.Proofs.Session.Atomicity

/-!
Contract: what a session did to its instances and its search path, in a journal.

A caller sends batches, makes, calls and imports directly, and ends a session. Each of
these is a number of steps, and each step leaves at most one deed behind.

Owns: commands and their steps, the deeds of a step, the journal of a run, and that every
run has one.

Does not own: the tables that a journal describes.
-/

namespace ListInvocation

/-- A change of instances or paths. -/
inductive Deed where
  /-- An object was made, and bound to an identifier. -/
  | made (id : String) (bound : Instance)
  /-- The body of a method ran on a bound object. -/
  | ran (body : Body)
  /-- A path was imported, known or not. -/
  | imported (path : String)
  /-- Everything was released. -/
  | finished

variable [Text.Alphabet]

namespace Session

/-! ## Commands and steps -/

inductive Command where
  | batch (tree : Tree String)
  | make (target className : String) (arguments : List (Tree String))
  | call (target member : String) (arguments : List (Tree String))
  | importPath (path : String)
  | finish

def perform (session : Session) : Command → Session
  | .batch tree => (session.execute tree).2
  | .make target className arguments => (session.make target className arguments).2
  | .call target member arguments => (session.call target member arguments).2
  | .importPath path => session.importPath path
  | .finish => session.finish

def performAll (session : Session) (commands : List Command) : Session :=
  commands.foldl perform session

/-- An operation, or the release of everything. -/
inductive Step where
  | run (operation : Operation)
  | finish

def take (session : Session) : Step → Session
  | .run operation => (session.run operation).2
  | .finish => session.finish

/-- The step of a tree that is an instruction; other trees have none. -/
def stepOf? (tree : Tree String) : Option Step :=
  (Instruction.decode tree).toOption.map fun instruction => .run instruction.operation

/-- The steps of a command. -/
def Command.steps : Command → List Step
  | .batch tree => (instructionsOf tree).filterMap stepOf?
  | .make target className arguments => [.run (.make target className arguments)]
  | .call target member arguments => [.run (.call target member arguments)]
  | .importPath path => [.run (.importPath path)]
  | .finish => [.finish]

theorem executeAll_eq_foldl (session : Session) (trees : List (Tree String)) :
    (session.executeAll trees).2 = (trees.filterMap stepOf?).foldl take session := by
  induction trees generalizing session with
  | nil => rfl
  | cons tree trees inductionHypothesis =>
      rw [executeAll_cons, inductionHypothesis]
      cases decoded : Instruction.decode tree with
      | error failure =>
          have noStep : stepOf? tree = none := by rw [stepOf?, decoded]; rfl
          rw [List.filterMap_cons_none noStep, executeInstruction_of_error decoded]
      | ok instruction =>
          have oneStep : stepOf? tree = some (.run instruction.operation) := by
            rw [stepOf?, decoded]
            rfl
          rw [List.filterMap_cons_some oneStep, executeInstruction_of_ok decoded]
          rfl

/-- A command is carried out by its steps. -/
theorem perform_eq_foldl (session : Session) (command : Command) :
    session.perform command = command.steps.foldl take session := by
  cases command with
  | batch tree => exact session.executeAll_eq_foldl (instructionsOf tree)
  | make target className arguments => rfl
  | call target member arguments => rfl
  | importPath path => rfl
  | finish => rfl

theorem performAll_eq_foldl (session : Session) (commands : List Command) :
    session.performAll commands = (commands.flatMap Command.steps).foldl take session := by
  induction commands generalizing session with
  | nil => rfl
  | cons command commands inductionHypothesis =>
      rw [List.flatMap_cons, List.foldl_append, ← perform_eq_foldl, ← inductionHypothesis]
      rfl

/-! ## Deeds -/

/-- What an operation does to the instances and paths of a session. -/
inductive Does (session : Session) : Operation → List Deed → Prop where
  | unmade {target className : String} {arguments : List (Tree String)} {failure : Failure} :
      session.construct className arguments = .error failure →
      Does session (.make target className arguments) []
  | made {target className : String} {arguments : List (Tree String)} {bound : Instance} :
      session.construct className arguments = .ok bound →
      Does session (.make target className arguments) [.made target bound]
  | called {operation : Operation} {target member : String}
      {arguments : List (Tree String)} {body? : Option Body} :
      operation.Calls target member arguments →
      session.instances.Moves body? (session.call target member arguments).2.instances →
      Does session operation (body?.map .ran).toList
  | imported {path : String} : Does session (.importPath path) [.imported path]
  | assigned {symbol : String} {value : Tree String} : Does session (.assign symbol value) []

/-- The journal of a run, the latest deed first: what it holds after some steps, when it
held the given deeds before them. -/
inductive Journal : Session → List Deed → List Step → List Deed → Prop where
  | nil {session : Session} {past : List Deed} : Journal session past [] past
  | run {session : Session} {operation : Operation} {steps : List Step}
      {deeds past all : List Deed} : session.Does operation deeds →
      Journal (session.run operation).2 (deeds ++ past) steps all →
      Journal session past (.run operation :: steps) all
  | finish {session : Session} {steps : List Step} {past all : List Deed} :
      Journal session.finish (.finished :: past) steps all →
      Journal session past (.finish :: steps) all

section Existence

variable {session : Session}

theorem exists_does (members : ∀ rule ∈ session.dialect.invokeRules, rule.RunsMember)
    (operation : Operation) : ∃ deeds, session.Does operation deeds := by
  have called : ∀ {target member arguments}, operation.Calls target member arguments →
      ∃ deeds, session.Does operation deeds := by
    intro target member arguments calls
    obtain ⟨body?, moves⟩ := Dialect.moves_invoke members session.instances
      (session.request target member arguments)
    exact ⟨_, .called calls moves⟩
  cases operation with
  | make target className arguments =>
      cases constructed : session.construct className arguments with
      | error failure => exact ⟨_, .unmade constructed⟩
      | ok bound => exact ⟨_, .made constructed⟩
  | call target member arguments => exact called .call
  | callAndAssign symbol target member arguments => exact called (.callAndAssign symbol)
  | importPath path => exact ⟨_, .imported⟩
  | assign symbol value => exact ⟨_, .assigned⟩

/-- Every run has a journal. -/
theorem exists_journal (members : ∀ rule ∈ session.dialect.invokeRules, rule.RunsMember)
    (past : List Deed) (steps : List Step) : ∃ all, Journal session past steps all := by
  induction steps generalizing session past with
  | nil => exact ⟨past, .nil⟩
  | cons step steps inductionHypothesis =>
      cases step with
      | run operation =>
          obtain ⟨deeds, does⟩ := exists_does members operation
          have sameRules : ∀ rule ∈ (session.run operation).2.dialect.invokeRules,
              rule.RunsMember := (session.run_setting operation).2 ▸ members
          obtain ⟨all, journal⟩ := inductionHypothesis sameRules (deeds ++ past)
          exact ⟨all, .run does journal⟩
      | finish =>
          have sameRules : ∀ rule ∈ session.finish.dialect.invokeRules, rule.RunsMember := members
          obtain ⟨all, journal⟩ := inductionHypothesis sameRules (.finished :: past)
          exact ⟨all, .finish journal⟩

end Existence

end Session

end ListInvocation
