import ListInvocation.Proofs.Dialect.BuiltIn

/-!
Contract: what a request can do to the instances.

A request stops before a body is entered, and then changes nothing, or it enters the body
of one method on one instance with arguments that were all parsed.

Owns: the instance that a chain of standard rules chooses, the two ways in which a
request can go, an equation for each, and that there is no third.

Does not own: what a body does to its object.
-/

namespace ListInvocation.Dialect

variable {dialect : Dialect} {table : InstanceTable} {request : Request}

/-- The rule that carries out a request. -/
def ruleFor? (dialect : Dialect) (table : InstanceTable) (request : Request) :
    Option InvokeRule :=
  dialect.invokeRules.find? fun rule => rule.accepts table request

/-- The instance on which a chain of standard rules runs a request: the one that the
request names, or the most recent library instance that has the member. -/
inductive Chosen (dialect : Dialect) (table : InstanceTable) (request : Request) :
    (id : String) → Prop where
  | target : dialect.ruleFor? table request = some Invocation.direct →
      Chosen dialect table request request.target
  | library {id : String} : dialect.ruleFor? table request = some Invocation.library →
      Invocation.library? table request = some id → Chosen dialect table request id

/-- A request enters the body of a method on a bound instance. -/
structure Enters (dialect : Dialect) (table : InstanceTable) (request : Request)
    (id : String) (bound : Instance) (method : Method) (arguments : Arguments) : Prop where
  targetBound : (table.find? request.target).isSome = true
  chosen : Chosen dialect table request id
  found : table.find? id = some bound
  offered : bound.fixture.method? request.member request.arity = some method
  parsed : dialect.parseArguments method.parameters request.arguments = .ok arguments

/-- A request stops with a failure before a body is entered: its target is not bound, no
rule accepts it, or one of its arguments does not parse. -/
inductive Stops (dialect : Dialect) (table : InstanceTable) (request : Request) :
    Failure → Prop where
  | unbound : table.find? request.target = none →
      Stops dialect table request (.instanceMissing request.target)
  | unanswered {bound : Instance} : table.find? request.target = some bound →
      dialect.ruleFor? table request = none →
      Stops dialect table request
        (.memberMissing bound.fixture.name request.member request.arity)
  | argument {id : String} {bound : Instance} {method : Method} {failure : Failure} :
      (table.find? request.target).isSome = true → Chosen dialect table request id →
      table.find? id = some bound →
      bound.fixture.method? request.member request.arity = some method →
      dialect.parseArguments method.parameters request.arguments = .error failure →
      Stops dialect table request failure

/-! ## Ways in which a request can end -/

theorem invoke_of_chosen {id : String}
    (targetBound : (table.find? request.target).isSome = true)
    (chosen : Chosen dialect table request id) :
    dialect.invoke table request =
      Invocation.invokeOn dialect.parseArguments table id request := by
  obtain ⟨bound, found⟩ := Option.isSome_iff_exists.mp targetBound
  cases chosen with
  | target rule =>
      unfold ruleFor? at rule
      simp only [invoke, InstanceTable.require, found, rule]
      rfl
  | library rule available =>
      unfold ruleFor? at rule
      simp only [invoke, InstanceTable.require, found, rule, Invocation.library, available]

/-- A request that stops changes nothing. -/
theorem Stops.invoke_eq {failure : Failure} (stops : Stops dialect table request failure) :
    dialect.invoke table request = (.error failure, table) := by
  cases stops with
  | unbound missing => simp only [invoke, InstanceTable.require, missing]
  | unanswered targetBound unanswered =>
      unfold ruleFor? at unanswered
      simp only [invoke, InstanceTable.require, targetBound, unanswered]
  | argument targetBound chosen found offered unparsed =>
      rw [invoke_of_chosen targetBound chosen]
      simp only [Invocation.invokeOn, InstanceTable.require, found, offered, unparsed]

/-- An entered body yields the result, and its object takes the place of the old one. -/
theorem Enters.invoke_eq {id : String} {bound : Instance} {method : Method}
    {arguments : Arguments} (enters : Enters dialect table request id bound method arguments) :
    dialect.invoke table request =
      ((method.invoke bound.fixture.name bound.object arguments).1,
        table.withObject id
          (method.invoke bound.fixture.name bound.object arguments).2) := by
  rw [invoke_of_chosen enters.targetBound enters.chosen]
  simp only [Invocation.invokeOn, InstanceTable.require, enters.found, enters.offered,
    enters.parsed]

/-! ## No other ways -/

/-- A standard rule that accepts a request runs it on an instance that offers the member. -/
theorem chosen_of_ruleFor? [Pattern.Library] (builtIn : dialect.BuiltIn) {rule : InvokeRule}
    (chooses : dialect.ruleFor? table request = some rule) :
    ∃ id, Chosen dialect table request id ∧
      Invocation.offers table request id = true := by
  have accepted : rule.accepts table request = true := by
    unfold ruleFor? at chooses
    have holds := List.find?_some chooses
    exact holds
  have standard := builtIn.invoke rule (List.mem_of_find?_eq_some chooses)
  simp only [Invocation.standard, List.mem_cons, List.not_mem_nil, or_false] at standard
  rcases standard with same | same
  · subst same
    exact ⟨request.target, .target chooses, accepted⟩
  · subst same
    obtain ⟨id, available⟩ := Option.isSome_iff_exists.mp accepted
    have offers := List.find?_some (p := Invocation.offers table request) available
    exact ⟨id, .library chooses available, offers⟩

theorem method_of_offers {id : String} (offers : Invocation.offers table request id = true) :
    ∃ bound method, table.find? id = some bound ∧
      bound.fixture.method? request.member request.arity = some method := by
  unfold Invocation.offers at offers
  cases found : table.find? id with
  | none =>
      rw [found] at offers
      contradiction
  | some bound =>
      rw [found] at offers
      obtain ⟨method, offered⟩ := Option.isSome_iff_exists.mp offers
      exact ⟨bound, method, rfl, offered⟩

variable [Pattern.Library]

/-- A request either stops with a failure or enters a body. -/
theorem invoke_cases (builtIn : dialect.BuiltIn) (table : InstanceTable)
    (request : Request) :
    (∃ failure, Stops dialect table request failure) ∨
      ∃ id bound method arguments,
        Enters dialect table request id bound method arguments := by
  cases targetBound : table.find? request.target with
  | none => exact .inl ⟨_, .unbound targetBound⟩
  | some target =>
      cases chooses : dialect.ruleFor? table request with
      | none => exact .inl ⟨_, .unanswered targetBound chooses⟩
      | some rule =>
          obtain ⟨id, chosen, offers⟩ := chosen_of_ruleFor? builtIn chooses
          obtain ⟨bound, method, found, offered⟩ := method_of_offers offers
          have isBound : (table.find? request.target).isSome = true := by
            rw [targetBound]
            rfl
          cases parsed : dialect.parseArguments method.parameters request.arguments with
          | error failure =>
              exact .inl ⟨failure, .argument isBound chosen found offered parsed⟩
          | ok arguments =>
              exact .inr ⟨id, bound, method, arguments, isBound, chosen, found, offered,
                parsed⟩

/-- A call whose method returns nothing has no value. -/
theorem isNull_of_invoke (builtIn : dialect.BuiltIn) {value : TypedValue}
    (returned : (dialect.invoke table request).1 = .ok value)
    (isVoid : value.declared = .void) : value.value = .null := by
  rcases dialect.invoke_cases builtIn table request with stopped | entered
  · obtain ⟨failure, stops⟩ := stopped
    rw [stops.invoke_eq] at returned
    contradiction
  · obtain ⟨id, ⟨fixture, object⟩, method, arguments, enters⟩ := entered
    rw [enters.invoke_eq] at returned
    cases object with
    | foreign => contradiction
    | fields fields =>
        simp only [Method.invoke] at returned
        cases ran : (method.body fields arguments).1 with
        | error failure =>
            rw [ran] at returned
            contradiction
        | ok result =>
            rw [ran] at returned
            have typed : method.typedResult result = value := Except.ok.inj returned
            rw [← typed] at isVoid ⊢
            unfold Method.typedResult at isVoid ⊢
            by_cases nothing : method.returns = .void
            · rw [if_pos nothing]
              rfl
            · rw [if_neg nothing] at isVoid
              exact absurd isVoid nothing

end ListInvocation.Dialect
