import ListInvocation.Proofs.Dialect.Dispatch
import ListInvocation.Proofs.Dialect.Parsing
import ListInvocation.Proofs.Steps

/-!
Contract: what is parsed for a type is a value of that type, throughout.

The type decides the kind of the value, and `any` leaves it to the tree, so that a leaf is a
text and a list node a list. No value is made up: a list has its elements or none is parsed.

Owns: the values of each type, that a chain of standard rules parses nothing else, the parses
of lists by their elements, and the arguments that fit the parameters of a body.

Does not own: which texts denote a value.
-/

namespace ListInvocation

/-- A present value of a type. The items of a list are values of its element type, and those
of a list of which the type says nothing are again such values. Nothing is of the types
`void` and `error`. -/
inductive TypedValue.HasType : ValueType → TypedValue → Prop where
  | bool (truth : Bool) : HasType .bool (.bool truth)
  | int (number : Int64) : HasType .int (.int number)
  | float (number : Binary64) : HasType .float (.float number)
  | text (text : String) : HasType .text (.text text)
  | untyped (text : String) : HasType .any ⟨.any, .text text⟩
  | untypedList {items : List TypedValue} : (∀ item ∈ items, HasType .any item) →
      HasType .any (.list .any items)
  | list {element : ValueType} {items : List TypedValue} :
      (∀ item ∈ items, HasType element item) → HasType (.list element) (.list element items)

/-- The types of single values that a text can denote. -/
def ValueType.isScalar : ValueType → Bool
  | .bool | .int | .float | .text => true
  | _ => false

/-- The value of a scalar type that a text denotes. -/
def Parsing.denoted? : ValueType → String → Option TypedValue
  | .bool, text => (readBool? (Text.trim text.toList)).map .bool
  | .int, text => (Decimal.readInt64? (Text.trim text.toList)).map .int
  | .float, text => (readFloat? (Text.trim text.toList)).map .float
  | .text, text => some (.text text)
  | _, _ => none

/-! ## Rules -/

theorem ValueType.isInteger_iff {type : ValueType} : type.isInteger = true ↔ type = .int := by
  cases type <;> simp [isInteger]

namespace Parsing

open ValueType (isInteger_iff)

/-- A rule whose values are of the targets that it accepts, when those of the chain are of
the types that it hands on. -/
def KeepsTypes (rule : ParseRule) : Prop :=
  ∀ (parser : Parser) (target : ValueType) (tree : Tree String) (value : TypedValue),
    (∀ part branch item, parser part branch = .ok item → item.HasType part) →
    rule.accepts target tree = true → rule.parse parser target tree = .ok value →
      value.HasType target

theorem keepsTypes_list : KeepsTypes list := by
  intro parser target tree value kept accepted parsed
  obtain ⟨items, each, rfl⟩ := map_eq_ok_iff.mp parsed
  rw [parseItems_eq_mapM] at each
  have typed : ∀ item ∈ items, item.HasType (target.element?.getD .any) := by
    intro item member
    obtain ⟨branch, _, itemParsed⟩ := exists_step_of_mem_mapM each member
    exact kept _ branch item itemParsed
  cases target with
  | list element => exact .list typed
  | any => exact .untypedList typed
  | _ => contradiction

theorem keepsTypes_text : KeepsTypes text := by
  intro _ target tree value _ accepted parsed
  cases parsed
  have isText := (Bool.and_eq_true_iff.mp accepted).1
  rcases Bool.or_eq_true_iff.mp isText with same | same
  · rw [beq_iff_eq.mp same]
    exact .text tree.value
  · rw [beq_iff_eq.mp same]
    exact .untyped tree.value

/-- A rule for one type that parses what the text of a leaf denotes for it. -/
theorem keepsTypes_of_denoted {α : Type} {rule : ParseRule} {type : ValueType}
    (form : α → TypedValue) (read? : List Char → Option α)
    (typed : ∀ denoted, (form denoted).HasType type)
    (accepts : ∀ target tree, rule.accepts target tree = true → target = type)
    (parses : ∀ parser tree, rule.parse parser type tree =
      orFailed type tree.value ((read? (Text.trim tree.value.toList)).map form)) :
    KeepsTypes rule := by
  intro parser target tree value _ accepted parsed
  obtain rfl := accepts target tree accepted
  rw [parses] at parsed
  cases denotes : read? (Text.trim tree.value.toList) with
  | none =>
      rw [denotes] at parsed
      contradiction
  | some denoted =>
      rw [denotes] at parsed
      cases parsed
      exact typed denoted

theorem keepsTypes_standard : ∀ rule ∈ standard, KeepsTypes rule := by
  intro rule member
  simp only [standard, List.mem_cons, List.not_mem_nil, or_false] at member
  rcases member with rfl | rfl | rfl | rfl | rfl
  · exact keepsTypes_text
  · apply keepsTypes_of_denoted TypedValue.bool readBool? .bool
    · exact fun _ _ accepted => beq_iff_eq.mp (Bool.and_eq_true_iff.mp accepted).1
    · intro parser tree
      simp only [boolean]
  · apply keepsTypes_of_denoted TypedValue.int Decimal.readInt64? .int
    · exact fun _ _ accepted => isInteger_iff.mp (Bool.and_eq_true_iff.mp accepted).1
    · intro parser tree
      simp only [integer]
  · apply keepsTypes_of_denoted TypedValue.float readFloat? .float
    · exact fun _ _ accepted => beq_iff_eq.mp (Bool.and_eq_true_iff.mp accepted).1
    · intro parser tree
      simp only [float]
  · exact keepsTypes_list

end Parsing

namespace Dialect

/-! ## Chains of standard rules -/

variable [Pattern.Library]

section Chains

variable {dialect : Dialect}

/-- The induction is on the levels, so that the parts of a list are of their types. -/
theorem hasType_of_parseWithin (builtIn : dialect.BuiltIn) {levels : Nat}
    {target : ValueType} {tree : Tree String} {value : TypedValue}
    (parsed : dialect.parseWithin levels target tree = .ok value) : value.HasType target := by
  induction levels generalizing target tree value with
  | zero => contradiction
  | succ levels inductionHypothesis =>
      rw [parseWithin] at parsed
      cases chooses : dialect.parseRules.find? fun rule => rule.accepts target tree with
      | none =>
          rw [chooses] at parsed
          contradiction
      | some rule =>
          rw [chooses] at parsed
          have standard := builtIn.parse rule (List.mem_of_find?_eq_some chooses)
          have accepted := List.find?_some chooses
          exact Parsing.keepsTypes_standard rule standard _ target tree value
            (fun _ _ _ => inductionHypothesis) accepted parsed

theorem hasType_of_parse (builtIn : dialect.BuiltIn) {target : ValueType}
    {tree : Tree String} {value : TypedValue} (parsed : dialect.parse target tree = .ok value) :
    value.HasType target :=
  hasType_of_parseWithin builtIn parsed

end Chains

/-! ## The usual chain -/

/-- A target and a tree that are parsed as a list, with the type of its elements: every tree
for the type of a list, and list nodes for `any`. -/
inductive ReadsList : ValueType → Tree String → ValueType → Prop where
  | typed (element : ValueType) (tree : Tree String) : ReadsList (.list element) tree element
  | untyped (value : String) (branches : List (Tree String)) :
      ReadsList .any (.node value branches) .any

/-- What a dialect parses for each type. A scalar is what the text of a leaf denotes. A list is
parsed when all its elements are, in their order, and otherwise comes to the failure of the
first one that is not. -/
structure ParsesByType (dialect : Dialect) : Prop where
  typed {target : ValueType} {tree : Tree String} {value : TypedValue} :
    dialect.parse target tree = .ok value → value.HasType target
  scalar {target : ValueType} : target.isScalar = true → ∀ text,
    dialect.parse target (.text text) =
      Parsing.orFailed target text (Parsing.denoted? target text)
  branched {target : ValueType} : target.isScalar = true → ∀ value branches,
    dialect.parse target (.node value branches) = .error (.operatorMissing .parse target)
  untyped (text : String) : dialect.parse .any (.text text) = .ok ⟨.any, .text text⟩
  unparsed {target : ValueType} : target = .void ∨ target = .error → ∀ tree,
    dialect.parse target tree = .error (.operatorMissing .parse target)
  list {target element : ValueType} {tree : Tree String} : ReadsList target tree element →
    ∀ value, dialect.parse target tree = .ok value ↔
      ∃ items, (Parsing.elementTrees tree).map (dialect.parse element) = items.map .ok ∧
        .list element items = value
  firstFailure {target element : ValueType} {tree : Tree String} :
    ReadsList target tree element →
    ∀ failure, dialect.parse target tree = .error failure ↔
      ∃ before part after, Parsing.elementTrees tree = before ++ part :: after ∧
        (∀ earlier ∈ before, ∃ item, dialect.parse element earlier = .ok item) ∧
        dialect.parse element part = .error failure

section Usual

variable (format : NumberFormat)

theorem parse_of_readsList {target element : ValueType} {tree : Tree String}
    (reads : ReadsList target tree element) :
    (standard.withFormat format).parse target tree =
      ((Parsing.elementTrees tree).mapM ((standard.withFormat format).parse element)).map
        (TypedValue.list element) := by
  rw [← Parsing.parseItems_eq_mapM]
  cases reads with
  | typed element tree => exact parse_list format element tree
  | untyped value branches =>
      have chooses : (standard.withFormat format).parseRuleFor? .any (.node value branches) =
          some Parsing.list := rfl
      rw [parse_eq (builtIn_standard format) chooses]
      rfl

theorem parsesByType_standard : ParsesByType (standard.withFormat format) where
  typed parsed := hasType_of_parse (builtIn_standard format) parsed
  scalar := by
    intro target isScalar text
    cases target with
    | bool => exact parse_bool format text
    | int => exact parse_int format text
    | float => exact parse_float format text
    | text => exact parse_text format text
    | _ => contradiction
  branched := by
    intro target isScalar value branches
    cases target with
    | bool => rfl
    | int => rfl
    | float => rfl
    | text => rfl
    | _ => contradiction
  untyped _ := rfl
  unparsed := by
    rintro target (rfl | rfl) tree
    · cases tree <;> rfl
    · cases tree <;> rfl
  list reads value := by
    rw [parse_of_readsList format reads, map_eq_ok_iff]
    simp only [mapM_eq_ok_iff]
  firstFailure reads failure := by
    rw [parse_of_readsList format reads, map_eq_error_iff, mapM_eq_error_iff]

end Usual

end Dialect

/-! ## Arguments -/

namespace Arguments

/-- Arguments for some parameters: as many, each of its type, and each accessor reads the
arguments of its kind. -/
structure Fit (arguments : Arguments) (parameters : List ValueType) : Prop where
  length_eq : arguments.length = parameters.length
  typed {position : Nat} {parameter : ValueType} : parameters[position]? = some parameter →
    ∃ argument, arguments.typed position = .ok argument ∧ argument.HasType parameter
  bool {position : Nat} : parameters[position]? = some .bool →
    ∃ truth, arguments.bool position = .ok truth
  int {position : Nat} : parameters[position]? = some .int →
    ∃ number, arguments.int position = .ok number
  float {position : Nat} : parameters[position]? = some .float →
    ∃ number, arguments.float position = .ok number
  text {position : Nat} : parameters[position]? = some .text →
    ∃ text, arguments.text position = .ok text
  list {position : Nat} {element : ValueType} : parameters[position]? = some (.list element) →
    ∃ items, arguments.list position = .ok items ∧ ∀ item ∈ items, item.HasType element

/-- An accessor reads a present argument of its kind. -/
theorem viewed_eq_ok {α : Type} {view : Value → Option α} {kind : String}
    {arguments : Arguments} {position : Nat} {argument : TypedValue} {seen : α}
    (found : arguments.typed position = .ok argument) (present : argument.isNull = false)
    (views : view argument.value = some seen) :
    viewed view kind arguments position = .ok seen := by
  have isPresent : arguments.present position = .ok argument.value := by
    simp [Arguments.present, found, present, bind, Except.bind, pure, Except.pure]
  simp [viewed, isPresent, views, bind, Except.bind, pure, Except.pure]

theorem fit_of_typed {arguments : Arguments} {parameters : List ValueType}
    (length_eq : arguments.length = parameters.length)
    (typed : ∀ {position parameter}, parameters[position]? = some parameter →
      ∃ argument, arguments.typed position = .ok argument ∧ argument.HasType parameter) :
    arguments.Fit parameters where
  length_eq := length_eq
  typed := typed
  bool declared := by
    obtain ⟨_, found, isOf⟩ := typed declared
    cases isOf with
    | bool truth => exact ⟨truth, viewed_eq_ok found rfl rfl⟩
  int declared := by
    obtain ⟨_, found, isOf⟩ := typed declared
    cases isOf with
    | int number => exact ⟨number, viewed_eq_ok found rfl rfl⟩
  float declared := by
    obtain ⟨_, found, isOf⟩ := typed declared
    cases isOf with
    | float number => exact ⟨number, viewed_eq_ok found rfl rfl⟩
  text declared := by
    obtain ⟨_, found, isOf⟩ := typed declared
    cases isOf with
    | text text => exact ⟨text, viewed_eq_ok found rfl rfl⟩
  list declared := by
    obtain ⟨_, found, isOf⟩ := typed declared
    cases isOf with
    | list each => exact ⟨_, viewed_eq_ok found rfl rfl, each⟩

end Arguments

variable [Pattern.Library]

namespace Dialect

/-- What is parsed for parameters, from as many trees, fits them. -/
theorem fit_of_parseArguments {dialect : Dialect} (builtIn : dialect.BuiltIn)
    {parameters : List ValueType} {trees : List (Tree String)} {values : Arguments}
    (parsed : dialect.parseArguments parameters trees = .ok values)
    (asMany : parameters.length = trees.length) : values.Fit parameters := by
  have all := parseArguments_eq_ok_iff.mp parsed
  refine Arguments.fit_of_typed (all.length_eq asMany) fun {position parameter} declared => ?_
  obtain ⟨inside, _⟩ := List.getElem?_eq_some_iff.mp declared
  have inTrees : position < trees.length := asMany ▸ inside
  have given : trees[position]? = some trees[position] := List.getElem?_eq_getElem inTrees
  obtain ⟨argument, found, here⟩ := parse_of_parseArguments parsed declared given
  refine ⟨argument, ?_, hasType_of_parse builtIn here⟩
  rw [Arguments.typed, found]

end Dialect

end ListInvocation
