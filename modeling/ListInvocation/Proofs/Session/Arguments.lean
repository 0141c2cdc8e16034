import ListInvocation.Proofs.Dialect.Typing
import ListInvocation.Proofs.Session.Reachable
import ListInvocation.Proofs.Symbols
import ListInvocation.Platform

/-!
Contract: the code of a fixture class receives arguments of the types that it declares.

Owns: constructions that enter the body of a constructor, and that the arguments of every
body that is entered fit its parameters.

Does not own: what a body makes of its arguments.
-/

namespace ListInvocation

/-! ## Constructors -/

namespace Session

variable [Text.Alphabet]

/-- A make instruction enters the body of a constructor of the resolved class. -/
structure EntersConstructor (session : Session) (className : String)
    (arguments : List (Tree String)) (fixture : FixtureClass) (constructor : Constructor)
    (values : Arguments) : Prop where
  resolved : session.classFor className = .ok fixture
  offered : fixture.constructor? arguments.length = some constructor
  parsed : session.dialect.parseArguments constructor.parameters
    (session.symbols.substituteAll arguments) = .ok values

variable {session : Session} {className : String} {arguments : List (Tree String)}
  {fixture : FixtureClass} {constructor : Constructor} {values : Arguments}

/-- An entered constructor makes the object, or its failure is that of the construction. -/
theorem EntersConstructor.construct_eq
    (enters : session.EntersConstructor className arguments fixture constructor values) :
    session.construct className arguments =
      (constructor.build values).map fun fields => ⟨fixture, .fields fields⟩ := by
  have resolved := enters.resolved
  unfold classFor at resolved
  simp only [construct, resolved, bind, Except.bind, enters.offered, enters.parsed]
  cases constructor.build values <;> rfl

theorem EntersConstructor.asMany
    (enters : session.EntersConstructor className arguments fixture constructor values) :
    constructor.parameters.length = (session.symbols.substituteAll arguments).length := by
  have sameArity := List.find?_some enters.offered
  rw [SymbolTable.substituteAll_eq_map, List.length_map]
  exact beq_iff_eq.mp sameArity

end Session

/-! ## Methods -/

namespace Dialect

theorem Enters.asMany {dialect : Dialect} {table : InstanceTable} {request : Request}
    {id : String} {bound : Instance} {method : Method} {values : Arguments}
    (enters : Enters dialect table request id bound method values) :
    method.parameters.length = request.arguments.length :=
  (FixtureClass.method?_eq_some_iff.mp enters.offered).1.2

/-! ## Entered bodies -/

variable [Text.Alphabet] [Pattern.Library]

/-- What is parsed is a value of its type throughout, lists element by element and without
defaults. So the body of every method and of every constructor that is entered runs on
arguments that fit its parameters. -/
theorem parse_typeSound (format : NumberFormat) :
    ParsesByType (standard.withFormat format) ∧
    (∀ table request id bound method values,
      Enters (standard.withFormat format) table request id bound method values →
      values.Fit method.parameters ∧
        ((standard.withFormat format).invoke table request).1 =
          (method.invoke bound.fixture.name bound.object values).1) ∧
    ∀ (session : Session) className arguments fixture constructor values,
      session.dialect = standard.withFormat format →
      session.EntersConstructor className arguments fixture constructor values →
      values.Fit constructor.parameters ∧
        session.construct className arguments =
          (constructor.build values).map fun fields => ⟨fixture, .fields fields⟩ := by
  have builtIn := builtIn_standard format
  refine ⟨parsesByType_standard format, ?_, ?_⟩
  · intro table request id bound method values enters
    refine ⟨fit_of_parseArguments builtIn enters.parsed enters.asMany, ?_⟩
    rw [enters.invoke_eq]
  · intro session className arguments fixture constructor values isStandard enters
    have parsed := enters.parsed
    rw [isStandard] at parsed
    exact ⟨fit_of_parseArguments builtIn parsed enters.asMany, enters.construct_eq⟩

end Dialect

end ListInvocation

namespace ListInvocation.Dialect

/-- A list of integers arrives from one leaf, with blanks in it. -/
theorem parse_typeSound_delimitedList :
    ∃ id bound method values,
      Enters standard Session.sampleSession.instances
        ⟨"c", "sum", [.text " [ 1,-2 ]"]⟩ id bound method values ∧
      values.Fit method.parameters := by
  have answered : (standard.invoke Session.sampleSession.instances
      ⟨"c", "sum", [.text " [ 1,-2 ]"]⟩).1 = .ok (.int (-1)) := by
    with_unfolding_all rfl
  rcases invoke_cases (builtIn_standard .invariant) Session.sampleSession.instances
    ⟨"c", "sum", [.text " [ 1,-2 ]"]⟩ with ⟨failure, stops⟩ | entered
  · have stopped : standard.invoke Session.sampleSession.instances
        ⟨"c", "sum", [.text " [ 1,-2 ]"]⟩ = (.error failure, _) := stops.invoke_eq
    rw [stopped] at answered
    contradiction
  · obtain ⟨id, bound, method, values, enters⟩ := entered
    exact ⟨id, bound, method, values, enters,
      ((parse_typeSound .invariant).2.1 _ _ _ _ _ _ enters).1⟩

end ListInvocation.Dialect
