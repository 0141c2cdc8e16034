import ListInvocation.Session

/-!
Contract: what one operation does to a session, by its outcome.

Owns: the ways in which a construction fails and in which an operation ends, an equation
for each, and the setting that no operation changes.

Does not own: which instance answers a call, or what a body does.
-/

namespace ListInvocation.Session

variable {session : Session}

theorem importPath_eq (session : Session) (path : String) :
    session.importPath path =
      { session with searchPath := (session.importPath path).searchPath } := by
  unfold importPath
  by_cases known : session.searchPath.contains path
  · rw [if_pos known]
  · rw [if_neg known]

/-! ## Constructions -/

variable [Text.Alphabet]

/-- The class that a make instruction names. -/
def classFor (session : Session) (className : String) : Except Failure FixtureClass :=
  session.registry.resolve (session.symbols.substituteText className) session.searchPath

section Construction

variable {className : String} {arguments : List (Tree String)} {failure : Failure}

/-- A construction fails: its class is not resolved, no constructor takes that many
arguments, an argument does not parse, or the body of the constructor fails. -/
inductive FailsToConstruct (session : Session) (className : String)
    (arguments : List (Tree String)) : Failure → Prop where
  | classMissing {failure : Failure} : session.classFor className = .error failure →
      FailsToConstruct session className arguments failure
  | constructorMissing {fixture : FixtureClass} : session.classFor className = .ok fixture →
      fixture.constructor? arguments.length = none →
      FailsToConstruct session className arguments
        (.constructorMissing fixture.name arguments.length)
  | argument {fixture : FixtureClass} {constructor : Constructor} {failure : Failure} :
      session.classFor className = .ok fixture →
      fixture.constructor? arguments.length = some constructor →
      session.dialect.parseArguments constructor.parameters
        (session.symbols.substituteAll arguments) = .error failure →
      FailsToConstruct session className arguments failure
  | body {fixture : FixtureClass} {constructor : Constructor} {values : Arguments}
      {failure : Failure} : session.classFor className = .ok fixture →
      fixture.constructor? arguments.length = some constructor →
      session.dialect.parseArguments constructor.parameters
        (session.symbols.substituteAll arguments) = .ok values →
      constructor.build values = .error failure →
      FailsToConstruct session className arguments failure

theorem FailsToConstruct.construct_eq
    (fails : session.FailsToConstruct className arguments failure) :
    session.construct className arguments = .error failure := by
  cases fails with
  | classMissing missing =>
      unfold classFor at missing
      simp only [construct, missing, bind, Except.bind]
  | constructorMissing resolved missing =>
      unfold classFor at resolved
      simp only [construct, resolved, bind, Except.bind, missing]
      rfl
  | argument resolved found unparsed =>
      unfold classFor at resolved
      simp only [construct, resolved, bind, Except.bind, found, unparsed]
  | body resolved found parsed failed =>
      unfold classFor at resolved
      simp only [construct, resolved, bind, Except.bind, found, parsed, failed]

/-- A construction fails in one of these ways, or makes an object of the resolved class. -/
theorem construct_cases (session : Session) (className : String)
    (arguments : List (Tree String)) :
    (∃ failure, session.FailsToConstruct className arguments failure) ∨
      ∃ fixture fields, session.classFor className = .ok fixture ∧
        session.construct className arguments = .ok ⟨fixture, .fields fields⟩ := by
  cases resolved : session.classFor className with
  | error failure => exact .inl ⟨failure, .classMissing resolved⟩
  | ok fixture =>
      cases found : fixture.constructor? arguments.length with
      | none => exact .inl ⟨_, .constructorMissing resolved found⟩
      | some constructor =>
          cases parsed : session.dialect.parseArguments constructor.parameters
              (session.symbols.substituteAll arguments) with
          | error failure => exact .inl ⟨failure, .argument resolved found parsed⟩
          | ok values =>
              cases built : constructor.build values with
              | error failure => exact .inl ⟨failure, .body resolved found parsed built⟩
              | ok fields =>
                  refine .inr ⟨fixture, fields, rfl, ?_⟩
                  unfold classFor at resolved
                  simp only [construct, resolved, bind, Except.bind, found, parsed, built]
                  rfl

/-- A make that succeeds makes an object of the class that its name stands for. -/
theorem classFor_of_construct {bound : Instance}
    (constructed : session.construct className arguments = .ok bound) :
    session.classFor className = .ok bound.fixture := by
  rcases session.construct_cases className arguments with failed | built
  · obtain ⟨failure, fails⟩ := failed
    rw [fails.construct_eq] at constructed
    contradiction
  · obtain ⟨fixture, fields, resolved, made⟩ := built
    rw [made] at constructed
    rw [resolved, ← Except.ok.inj constructed]

end Construction

theorem run_make_of_error {target className : String} {arguments : List (Tree String)}
    {failure : Failure} (failed : session.construct className arguments = .error failure) :
    session.run (.make target className arguments) = (.error failure, session) := by
  simp only [run, make, failed, Except.map]

theorem run_make_of_ok {target className : String} {arguments : List (Tree String)}
    {bound : Instance} (built : session.construct className arguments = .ok bound) :
    session.run (.make target className arguments) =
      (.ok (.text okText),
        { session with instances := session.instances.bind target bound }) := by
  simp only [run, make, built, Except.map]

/-! ## Calls -/

/-- The request that a call hands to the dialect. -/
def request (session : Session) (target member : String) (arguments : List (Tree String)) :
    Request :=
  ⟨target, member, session.symbols.substituteAll arguments⟩

theorem call_eq (session : Session) (target member : String)
    (arguments : List (Tree String)) :
    session.call target member arguments =
      ((session.dialect.invoke session.instances (session.request target member arguments)).1,
        { session with
          instances := (session.dialect.invoke session.instances
            (session.request target member arguments)).2 }) := rfl

theorem callComposed_eq (session : Session) (target member : String)
    (arguments : List (Tree String)) :
    session.callComposed target member arguments =
      ((session.call target member arguments).1 >>= session.dialect.compose,
        (session.call target member arguments).2) := rfl

/-- A result that cannot be composed is not assigned. -/
theorem run_callAndAssign_of_error {symbol target member : String}
    {arguments : List (Tree String)} {failure : Failure}
    (failed : (session.callComposed target member arguments).1 = .error failure) :
    session.run (.callAndAssign symbol target member arguments) =
      (.error failure, (session.callComposed target member arguments).2) := by
  unfold run
  simp only
  rw [failed]

theorem run_callAndAssign_of_ok {symbol target member : String}
    {arguments : List (Tree String)} {tree : Tree String}
    (composed : (session.callComposed target member arguments).1 = .ok tree) :
    session.run (.callAndAssign symbol target member arguments) =
      (.ok tree, (session.callComposed target member arguments).2.assign symbol tree) := by
  unfold run
  simp only
  rw [composed]

/-! ## Ways in which an operation can end -/

/-- An operation ends with a result and a session. Only what a case names is another than
before. -/
inductive Ends (session : Session) :
    Operation → Except Failure (Tree String) × Session → Prop where
  | unmade {target className : String} {arguments : List (Tree String)} {failure : Failure} :
      session.FailsToConstruct className arguments failure →
      Ends session (.make target className arguments) (.error failure, session)
  | made {target className : String} {arguments : List (Tree String)}
      {fixture : FixtureClass} {fields : Fields} :
      session.classFor className = .ok fixture →
      session.construct className arguments = .ok ⟨fixture, .fields fields⟩ →
      Ends session (.make target className arguments) (.ok (.text okText),
        { session with instances := session.instances.bind target ⟨fixture, .fields fields⟩ })
  | called {target member : String} {arguments : List (Tree String)} :
      Ends session (.call target member arguments)
        (session.callComposed target member arguments)
  | unassigned {symbol target member : String} {arguments : List (Tree String)}
      {failure : Failure} :
      (session.callComposed target member arguments).1 = .error failure →
      Ends session (.callAndAssign symbol target member arguments)
        (.error failure, (session.callComposed target member arguments).2)
  | assigned {symbol target member : String} {arguments : List (Tree String)}
      {tree : Tree String} :
      (session.callComposed target member arguments).1 = .ok tree →
      Ends session (.callAndAssign symbol target member arguments)
        (.ok tree, (session.callComposed target member arguments).2.assign symbol tree)
  | imported {path : String} :
      Ends session (.importPath path) (.ok (.text okText),
        { session with searchPath := (session.importPath path).searchPath })
  | bound {symbol : String} {value : Tree String} :
      Ends session (.assign symbol value)
        (.ok (.text okText), session.assign symbol (session.symbols.substitute value))

/-- Every operation ends in one of these ways. -/
theorem run_ends (session : Session) (operation : Operation) :
    session.Ends operation (session.run operation) := by
  cases operation with
  | make target className arguments =>
      rcases session.construct_cases className arguments with failed | built
      · obtain ⟨failure, fails⟩ := failed
        rw [run_make_of_error fails.construct_eq]
        exact .unmade fails
      · obtain ⟨fixture, fields, resolved, constructed⟩ := built
        rw [run_make_of_ok constructed]
        exact .made resolved constructed
  | call target member arguments => exact .called
  | callAndAssign symbol target member arguments =>
      cases composed : (session.callComposed target member arguments).1 with
      | error failure =>
          rw [run_callAndAssign_of_error composed]
          exact .unassigned composed
      | ok tree =>
          rw [run_callAndAssign_of_ok composed]
          exact .assigned composed
  | importPath path =>
      have ended : session.run (.importPath path) =
          (.ok (.text okText), session.importPath path) := rfl
      rw [ended, importPath_eq]
      exact .imported
  | assign symbol value => exact .bound

/-- No operation changes the classes and rules that a session works with. -/
theorem run_setting (session : Session) (operation : Operation) :
    (session.run operation).2.registry = session.registry ∧
      (session.run operation).2.dialect = session.dialect := by
  have ends := session.run_ends operation
  generalize session.run operation = ended at ends ⊢
  cases ends with
  | unmade _ => exact ⟨rfl, rfl⟩
  | made _ _ => exact ⟨rfl, rfl⟩
  | called => exact ⟨rfl, rfl⟩
  | unassigned _ => exact ⟨rfl, rfl⟩
  | assigned _ => exact ⟨rfl, rfl⟩
  | imported => exact ⟨rfl, rfl⟩
  | bound => exact ⟨rfl, rfl⟩

end ListInvocation.Session
