import Mathlib.Data.List.Forall2
import ListInvocation.Proofs.Dialect.Invocation
import ListInvocation.Proofs.Dialect.Parsing
import ListInvocation.Proofs.Fixture.Instances

/-!
Contract: the instance that answers a request to the usual chain, and with which arguments.

A request runs on its target where the target's class has the member, or else on the library
instance with the member that was bound last.

Owns: the method and the instance that a request means, arguments that parse and the leftmost
one that does not, the four answers to a request, and the bindings that an answer keeps.

Does not own: what a body does to its object.
-/

namespace ListInvocation

variable {table : InstanceTable} {request : Request}

/-! ## Methods -/

/-- A method has the name and the number of parameters that a request asks for. -/
def Request.Fits (request : Request) (method : Method) : Prop :=
  method.name = request.member ∧ method.parameters.length = request.arity

namespace FixtureClass

variable {fixture : FixtureClass} {method : Method}

/-- The method that a request means, among those of a class: the first one that fits. -/
def First (fixture : FixtureClass) (request : Request) (method : Method) : Prop :=
  request.Fits method ∧ ∃ before after, fixture.methods = before ++ method :: after ∧
    ∀ earlier ∈ before, ¬ request.Fits earlier

def Lacks (fixture : FixtureClass) (request : Request) : Prop :=
  ∀ method ∈ fixture.methods, ¬ request.Fits method

theorem method?_eq_some_iff :
    fixture.method? request.member request.arity = some method ↔
      fixture.First request method := by
  simp only [method?, List.find?_eq_some_iff_append, First, Request.Fits, Bool.and_eq_true,
    beq_iff_eq, Bool.not_eq_true', Bool.and_eq_false_imp, beq_eq_false_iff_ne, ne_eq, not_and]

theorem method?_eq_none_iff :
    fixture.method? request.member request.arity = none ↔ fixture.Lacks request := by
  simp [method?, List.find?_eq_none, Lacks, Request.Fits]

end FixtureClass

/-! ## Instances -/

namespace InstanceTable

/-- Whatever is bound to an identifier lacks the member. -/
def Lacks (table : InstanceTable) (request : Request) (id : String) : Prop :=
  ∀ bound, table.find? id = some bound → bound.fixture.Lacks request

/-- An identifier of a library instance begins with the mark. -/
def IsLibrary (id : String) : Prop :=
  ∃ rest, id = libraryMark ++ rest

theorem isLibraryId_iff {id : String} : isLibraryId id = true ↔ IsLibrary id := by
  unfold isLibraryId
  rw [List.isPrefixOf_iff_prefix]
  constructor
  · rintro ⟨rest, parts⟩
    refine ⟨String.ofList rest, String.toList_inj.mp ?_⟩
    rw [String.toList_append, String.toList_ofList, parts]
  · rintro ⟨rest, parts⟩
    exact ⟨rest.toList, by rw [parts, String.toList_append]⟩

/-- The instance that answers a request, with the method that it runs. Identifiers are bound
in the order of the table, the latest binding last. -/
inductive Answers (table : InstanceTable) (request : Request) :
    (id : String) → Instance → Method → Prop where
  | target {bound : Instance} {method : Method} :
      table.find? request.target = some bound → bound.fixture.First request method →
      Answers table request request.target bound method
  | library {target bound : Instance} {method : Method} {id : String}
      {older newer : List String} :
      table.find? request.target = some target → target.fixture.Lacks request →
      table.order = older ++ id :: newer → IsLibrary id →
      table.find? id = some bound → bound.fixture.First request method →
      (∀ other ∈ newer, IsLibrary other → table.Lacks request other) →
      Answers table request id bound method

namespace Answers

variable {id : String} {bound : Instance} {method : Method}

theorem found (answers : table.Answers request id bound method) :
    table.find? id = some bound := by
  cases answers with
  | target found _ => exact found
  | library _ _ _ _ found _ _ => exact found

theorem first (answers : table.Answers request id bound method) :
    bound.fixture.First request method := by
  cases answers with
  | target _ first => exact first
  | library _ _ _ _ _ first _ => exact first

theorem asMany (answers : table.Answers request id bound method) :
    method.parameters.length = request.arguments.length :=
  answers.first.1.2

end Answers

end InstanceTable

namespace Invocation

open InstanceTable

theorem offers_of_first {id : String} {bound : Instance} {method : Method}
    (found : table.find? id = some bound) (first : bound.fixture.First request method) :
    offers table request id = true := by
  simp [offers, found, FixtureClass.method?_eq_some_iff.mpr first]

theorem offers_eq_false_iff {id : String} :
    offers table request id = false ↔ table.Lacks request id := by
  unfold offers InstanceTable.Lacks
  cases table.find? id with
  | none => simp
  | some bound => simp [← FixtureClass.method?_eq_none_iff]

theorem offers_eq_false_of_lacks {id : String} {bound : Instance}
    (found : table.find? id = some bound) (lacks : bound.fixture.Lacks request) :
    offers table request id = false := by
  apply offers_eq_false_iff.mpr
  intro other otherFound
  rw [found] at otherFound
  exact Option.some.inj otherFound ▸ lacks

/-- The search goes from the latest binding back. -/
theorem library?_eq_find? (table : InstanceTable) (request : Request) :
    library? table request =
      table.order.reverse.find? fun id => isLibraryId id && offers table request id := by
  unfold library? libraryIds
  rw [List.find?_filter]
  simp only [Bool.decide_and, Bool.decide_eq_true]

theorem library?_eq_some_iff {id : String} :
    library? table request = some id ↔
      (IsLibrary id ∧ offers table request id = true) ∧
        ∃ older newer, table.order = older ++ id :: newer ∧
          ∀ other ∈ newer, IsLibrary other → table.Lacks request other := by
  have declined : ∀ other, (!(isLibraryId other && offers table request other)) = true ↔
      (IsLibrary other → table.Lacks request other) := by
    intro other
    rw [← isLibraryId_iff, ← offers_eq_false_iff]
    cases isLibraryId other <;> simp
  rw [library?_eq_find?, List.find?_eq_some_iff_append, Bool.and_eq_true, isLibraryId_iff]
  simp only [declined]
  refine and_congr_right fun _ => ⟨?_, ?_⟩
  · rintro ⟨newer, older, order, later⟩
    refine ⟨older.reverse, newer.reverse, ?_, fun other member =>
      later other (List.mem_reverse.mp member)⟩
    rw [← List.reverse_reverse table.order, order]
    simp
  · rintro ⟨older, newer, order, later⟩
    refine ⟨newer.reverse, older.reverse, ?_, fun other member =>
      later other (List.mem_reverse.mp member)⟩
    rw [order]
    simp

theorem library?_eq_none_iff :
    library? table request = none ↔
      ∀ id ∈ table.order, IsLibrary id → table.Lacks request id := by
  rw [library?_eq_find?, List.find?_eq_none]
  simp only [List.mem_reverse, Bool.and_eq_true, not_and, Bool.not_eq_true, isLibraryId_iff,
    offers_eq_false_iff]

end Invocation

/-- At most one instance answers a request, with one method. -/
theorem InstanceTable.Answers.unique {id other : String} {bound otherBound : Instance}
    {method otherMethod : Method} (answers : table.Answers request id bound method)
    (others : table.Answers request other otherBound otherMethod) :
    other = id ∧ otherBound = bound ∧ otherMethod = method := by
  have sameId : other = id := by
    cases answers with
    | target found first =>
        have offers := Invocation.offers_of_first found first
        cases others with
        | target => rfl
        | library otherFound lacks =>
            rw [Invocation.offers_eq_false_of_lacks otherFound lacks] at offers
            contradiction
    | library targetFound lacks order isLibrary found first newest =>
        have declines := Invocation.offers_eq_false_of_lacks targetFound lacks
        cases others with
        | target otherFound otherFirst =>
            rw [Invocation.offers_of_first otherFound otherFirst] at declines
            contradiction
        | library _ _ otherOrder otherIsLibrary otherFound otherFirst otherNewest =>
            -- Both are what the search from the latest binding back finds first.
            have newestHere := Invocation.library?_eq_some_iff.mpr
              ⟨⟨isLibrary, Invocation.offers_of_first found first⟩, _, _, order, newest⟩
            have newestThere := Invocation.library?_eq_some_iff.mpr
              ⟨⟨otherIsLibrary, Invocation.offers_of_first otherFound otherFirst⟩, _, _,
                otherOrder, otherNewest⟩
            rw [newestHere] at newestThere
            exact (Option.some.inj newestThere).symm
  subst sameId
  have sameBound : otherBound = bound :=
    Option.some.inj (others.found.symm.trans answers.found)
  subst sameBound
  have here := FixtureClass.method?_eq_some_iff.mpr answers.first
  have there := FixtureClass.method?_eq_some_iff.mpr others.first
  exact ⟨rfl, rfl, Option.some.inj (there.symm.trans here)⟩

namespace Dialect

open InstanceTable

/-! ## Arguments -/

section Arguments

variable {dialect : Dialect} {parameters : List ValueType} {trees : List (Tree String)}

/-- Every argument parses for its parameter. -/
def ParsesAll (dialect : Dialect) (parameters : List ValueType) (trees : List (Tree String))
    (values : Arguments) : Prop :=
  List.Forall₂ (fun argument value => dialect.parse argument.1 argument.2 = .ok value)
    (parameters.zip trees) values

/-- An argument does not parse, and all those on its left do. -/
def FailsAt (dialect : Dialect) (parameters : List ValueType) (trees : List (Tree String))
    (failure : Failure) : Prop :=
  ∃ before argument after, parameters.zip trees = before ++ argument :: after ∧
    (∀ earlier ∈ before, ∃ value, dialect.parse earlier.1 earlier.2 = .ok value) ∧
    dialect.parse argument.1 argument.2 = .error failure

theorem parseArguments_eq_ok_iff {values : Arguments} :
    dialect.parseArguments parameters trees = .ok values ↔
      dialect.ParsesAll parameters trees values := by
  rw [parseArguments_eq_mapM, mapM_eq_ok_iff, ← List.forall₂_eq_eq_eq,
    List.forall₂_map_left_iff, List.forall₂_map_right_iff, ParsesAll]

/-- Arguments are parsed from left to right, and the first failure counts. -/
theorem parseArguments_eq_error_iff {failure : Failure} :
    dialect.parseArguments parameters trees = .error failure ↔
      dialect.FailsAt parameters trees failure := by
  rw [parseArguments_eq_mapM, mapM_eq_error_iff, FailsAt]

theorem ParsesAll.length_eq {values : Arguments}
    (all : dialect.ParsesAll parameters trees values)
    (asMany : parameters.length = trees.length) : values.length = parameters.length := by
  have same := List.Forall₂.length_eq all
  rw [List.length_zip, asMany, Nat.min_self] at same
  omega

end Arguments

/-! ## Answers to a request -/

/-- What a request comes to, and the instances behind it. -/
inductive Dispatched (dialect : Dialect) (table : InstanceTable) (request : Request) :
    Invoked → Prop where
  | unbound : table.find? request.target = none →
      Dispatched dialect table request (.error (.instanceMissing request.target), table)
  | unanswered {target : Instance} :
      table.find? request.target = some target → target.fixture.Lacks request →
      (∀ id ∈ table.order, IsLibrary id → table.Lacks request id) →
      Dispatched dialect table request
        (.error (.memberMissing target.fixture.name request.member request.arity), table)
  | unparsed {id : String} {bound : Instance} {method : Method} {failure : Failure} :
      table.Answers request id bound method →
      dialect.FailsAt method.parameters request.arguments failure →
      Dispatched dialect table request (.error failure, table)
  | entered {id : String} {bound : Instance} {method : Method} {values : Arguments} :
      table.Answers request id bound method →
      dialect.ParsesAll method.parameters request.arguments values →
      values.length = method.parameters.length →
      Dispatched dialect table request
        ((method.invoke bound.fixture.name bound.object values).1,
          table.withObject id (method.invoke bound.fixture.name bound.object values).2)

/-- Another table has the same bindings, with the same classes in the same order, and the
same objects but for the chosen identifiers. -/
structure Keeps (table next : InstanceTable) (chosen : String → Prop) : Prop where
  order : next.order = table.order
  identifiers : next.entries.map Prod.fst = table.entries.map Prod.fst
  fixture : ∀ id, (next.find? id).map Instance.fixture = (table.find? id).map Instance.fixture
  object : ∀ id, ¬ chosen id → next.find? id = table.find? id

theorem keeps_self (table : InstanceTable) (chosen : String → Prop) :
    Keeps table table chosen :=
  ⟨rfl, rfl, fun _ => rfl, fun _ _ => rfl⟩

theorem keeps_withObject (table : InstanceTable) {chosen : String → Prop} {id : String}
    (isChosen : chosen id) (object : FixtureObject) :
    Keeps table (table.withObject id object) chosen where
  order := rfl
  identifiers := table.identifiers_withObject id object
  fixture other := by
    by_cases here : other = id
    · rw [here, find?_withObject_self, Option.map_map]
      rfl
    · rw [find?_withObject_of_ne table here]
  object other unchosen := by
    apply find?_withObject_of_ne table
    intro same
    exact unchosen (same ▸ isChosen)

variable [Pattern.Library]

section Usual

variable (format : NumberFormat)

theorem ruleFor?_standard (table : InstanceTable) (request : Request) :
    (standard.withFormat format).ruleFor? table request =
      if Invocation.offers table request request.target then some Invocation.direct
      else if (Invocation.library? table request).isSome then some Invocation.library
      else none := by
  have rules : (standard.withFormat format).invokeRules =
      [Invocation.direct, Invocation.library] := rfl
  unfold ruleFor?
  rw [rules, List.find?_cons, List.find?_cons, List.find?_nil]
  simp only [Invocation.direct, Invocation.library]
  cases Invocation.offers table request request.target <;>
    cases (Invocation.library? table request).isSome <;> rfl

/-- The instance that answers is the one that the rules choose. -/
theorem chosen_of_answers {id : String} {bound : Instance} {method : Method}
    (answers : table.Answers request id bound method) :
    (table.find? request.target).isSome = true ∧
      Chosen (standard.withFormat format) table request id ∧ table.find? id = some bound ∧
      bound.fixture.method? request.member request.arity = some method := by
  have offered := FixtureClass.method?_eq_some_iff.mpr answers.first
  cases answers with
  | target found first =>
      have offers := Invocation.offers_of_first found first
      refine ⟨by rw [found]; rfl, .target ?_, found, offered⟩
      rw [ruleFor?_standard, if_pos offers]
  | library targetFound lacks order isLibrary found first newest =>
      have declines := Invocation.offers_eq_false_of_lacks targetFound lacks
      have offers := Invocation.offers_of_first found first
      have available := Invocation.library?_eq_some_iff.mpr
        ⟨⟨isLibrary, offers⟩, _, _, order, newest⟩
      refine ⟨by rw [targetFound]; rfl, .library ?_ available, found, offered⟩
      rw [ruleFor?_standard, declines, available]
      rfl

theorem Dispatched.invoke_eq {answer : Invoked}
    (dispatched : Dispatched (standard.withFormat format) table request answer) :
    (standard.withFormat format).invoke table request = answer := by
  cases dispatched with
  | unbound missing => exact (Stops.unbound missing).invoke_eq
  | unanswered found lacks none =>
      apply (Stops.unanswered found ?_).invoke_eq
      rw [ruleFor?_standard, Invocation.offers_eq_false_of_lacks found lacks,
        Invocation.library?_eq_none_iff.mpr none]
      rfl
  | unparsed answers fails =>
      obtain ⟨targetBound, chosen, found, offered⟩ := chosen_of_answers format answers
      exact (Stops.argument targetBound chosen found offered
        (parseArguments_eq_error_iff.mpr fails)).invoke_eq
  | entered answers all _ =>
      obtain ⟨targetBound, chosen, found, offered⟩ := chosen_of_answers format answers
      exact Enters.invoke_eq
        ⟨targetBound, chosen, found, offered, parseArguments_eq_ok_iff.mpr all⟩

theorem exists_dispatched_of_answers {id : String} {bound : Instance} {method : Method}
    (answers : table.Answers request id bound method) :
    ∃ answer, Dispatched (standard.withFormat format) table request answer := by
  cases parsed : (standard.withFormat format).parseArguments method.parameters
      request.arguments with
  | ok values =>
      have all := parseArguments_eq_ok_iff.mp parsed
      exact ⟨_, .entered answers all (all.length_eq answers.asMany)⟩
  | error failure => exact ⟨_, .unparsed answers (parseArguments_eq_error_iff.mp parsed)⟩

theorem exists_dispatched (table : InstanceTable) (request : Request) :
    ∃ answer, Dispatched (standard.withFormat format) table request answer := by
  cases found : table.find? request.target with
  | none => exact ⟨_, .unbound found⟩
  | some target =>
      cases direct : target.fixture.method? request.member request.arity with
      | some method =>
          exact exists_dispatched_of_answers format
            (.target found (FixtureClass.method?_eq_some_iff.mp direct))
      | none =>
          have lacks := FixtureClass.method?_eq_none_iff.mp direct
          cases available : Invocation.library? table request with
          | none =>
              exact ⟨_, .unanswered found lacks
                (Invocation.library?_eq_none_iff.mp available)⟩
          | some id =>
              obtain ⟨⟨isLibrary, offers⟩, older, newer, order, newest⟩ :=
                Invocation.library?_eq_some_iff.mp available
              obtain ⟨bound, method, isBound, offered⟩ := method_of_offers offers
              exact exists_dispatched_of_answers format
                (.library found lacks order isLibrary isBound
                  (FixtureClass.method?_eq_some_iff.mp offered) newest)

/-- A request has exactly one of the four answers, the one that its instance and arguments
determine. At most one instance answers it, and whatever comes of it, all bindings stay and only
the object of that instance may be another one, if the arguments parse. -/
theorem invoke_dispatched (table : InstanceTable) (request : Request) :
    (∀ answer, (standard.withFormat format).invoke table request = answer ↔
      Dispatched (standard.withFormat format) table request answer) ∧
    (∀ id bound method other otherBound otherMethod,
      table.Answers request id bound method →
      table.Answers request other otherBound otherMethod →
      other = id ∧ otherBound = bound ∧ otherMethod = method) ∧
    Keeps table ((standard.withFormat format).invoke table request).2 fun id =>
      ∃ bound method values, table.Answers request id bound method ∧
        (standard.withFormat format).ParsesAll method.parameters request.arguments values := by
  obtain ⟨answer, dispatched⟩ := exists_dispatched format table request
  have answered := dispatched.invoke_eq
  refine ⟨?_, fun _ _ _ _ _ _ answers others => answers.unique others, ?_⟩
  · intro other
    constructor
    · intro same
      rw [answered] at same
      exact same ▸ dispatched
    · exact fun otherDispatched => otherDispatched.invoke_eq
  · rw [answered]
    cases dispatched with
    | unbound _ => exact keeps_self table _
    | unanswered _ _ _ => exact keeps_self table _
    | unparsed _ _ => exact keeps_self table _
    | entered answers all _ => exact keeps_withObject table ⟨_, _, _, answers, all⟩ _

end Usual

end Dialect

end ListInvocation
