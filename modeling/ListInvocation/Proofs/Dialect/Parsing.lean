import ListInvocation.Proofs.Dialect.BuiltIn
import ListInvocation.Proofs.Steps

/-!
Contract: a chain of standard rules parses a list with the whole chain on its elements.

The levels that parsing counts down are never used up, so they can be left out of every
equation.

Owns: the rules that hand on smaller arguments only, the equation of a chain of standard
rules, the parses of the usual chain by target, and the arguments of a request one by one.

Does not own: which trees parse for a target.
-/

namespace ListInvocation

/-! ## Smaller trees -/

theorem Tree.nesting_le_nestingAll {trees : List (Tree String)} {tree : Tree String}
    (member : tree ∈ trees) : tree.nesting ≤ nestingAll trees := by
  induction trees with
  | nil => exact absurd member List.not_mem_nil
  | cons first rest inductionHypothesis =>
      unfold nestingAll
      rcases List.mem_cons.mp member with here | later
      · rw [here]
        exact Nat.le_max_left _ _
      · exact Nat.le_trans (inductionHypothesis later) (Nat.le_max_right _ _)

namespace Parsing

/-- An element has no more list levels than the list, and fewer than a list node. -/
theorem nesting_of_mem_elementTrees {tree element : Tree String}
    (member : element ∈ elementTrees tree) :
    element.nesting ≤ tree.nesting ∧
      (tree.isList = true → element.nesting < tree.nesting) := by
  cases tree with
  | leaf text =>
      obtain ⟨part, _, same⟩ := List.mem_map.mp member
      rw [← same]
      exact ⟨Nat.le_refl 0, fun impossible => absurd impossible (by simp [Tree.isList])⟩
  | node value branches =>
      have inside : element ∈ branches := member
      have bound := Tree.nesting_le_nestingAll inside
      have levels : (Tree.node value branches).nesting = Tree.nestingAll branches + 1 := by
        rw [Tree.nesting]
      exact ⟨by omega, fun _ => by omega⟩

theorem parseItems_eq_mapM (parser : Parser) (element : ValueType)
    (trees : List (Tree String)) :
    parseItems parser element trees = trees.mapM (parser element) := by
  induction trees with
  | nil => rfl
  | cons tree trees inductionHypothesis =>
      rw [parseItems, inductionHypothesis, List.mapM_cons]

theorem parseItems_congr {first second : Parser} {element : ValueType}
    {trees : List (Tree String)}
    (agree : ∀ tree ∈ trees, first element tree = second element tree) :
    parseItems first element trees = parseItems second element trees := by
  rw [parseItems_eq_mapM, parseItems_eq_mapM, mapM_congr agree]

/-- A rule that asks for the parses of smaller targets and trees only, where it accepts. -/
def Local (rule : ParseRule) : Prop :=
  ∀ (first second : Parser) (target : ValueType) (tree : Tree String),
    rule.accepts target tree = true →
    (∀ (part : ValueType) (branch : Tree String),
      part.nesting + branch.nesting < target.nesting + tree.nesting →
        first part branch = second part branch) →
      rule.parse first target tree = rule.parse second target tree

theorem local_list : Local list := by
  intro first second target tree accepted agree
  have same : parseItems first (target.element?.getD .any) (elementTrees tree) =
      parseItems second (target.element?.getD .any) (elementTrees tree) := by
    apply parseItems_congr
    intro branch member
    obtain ⟨atMost, ofList⟩ := nesting_of_mem_elementTrees member
    apply agree
    cases target with
    | list element =>
        simp only [ValueType.element?, Option.getD_some, ValueType.nesting]
        omega
    | any =>
        have fewer := ofList accepted
        simp only [ValueType.element?, Option.getD_none, ValueType.nesting]
        omega
    | _ => contradiction
  simp only [list, same]

/-- All standard rules but the one of lists parse without the chain. -/
theorem local_standard : ∀ rule ∈ standard, Local rule := by
  intro rule member
  simp only [standard, List.mem_cons, List.not_mem_nil, or_false] at member
  rcases member with same | same | same | same | same
  · rw [same]
    exact fun _ _ _ _ _ _ => rfl
  · rw [same]
    exact fun _ _ _ _ _ _ => rfl
  · rw [same]
    exact fun _ _ _ _ _ _ => rfl
  · rw [same]
    exact fun _ _ _ _ _ _ => rfl
  · rw [same]
    exact local_list

end Parsing

/-! ## Chains of standard rules -/

namespace Dialect

variable {dialect : Dialect}

/-- The rule that parses a tree for a target. -/
def parseRuleFor? (dialect : Dialect) (target : ValueType) (tree : Tree String) :
    Option ParseRule :=
  dialect.parseRules.find? fun rule => rule.accepts target tree

/-- More levels than target and tree have together make no difference. -/
theorem parseWithin_congr [Pattern.Library] (builtIn : dialect.BuiltIn) {first second : Nat}
    {target : ValueType} {tree : Tree String}
    (enough : target.nesting + tree.nesting < first)
    (alsoEnough : target.nesting + tree.nesting < second) :
    dialect.parseWithin first target tree = dialect.parseWithin second target tree := by
  induction first generalizing second target tree with
  | zero => exact absurd enough (Nat.not_lt_zero _)
  | succ first inductionHypothesis =>
      cases second with
      | zero => exact absurd alsoEnough (Nat.not_lt_zero _)
      | succ second =>
          simp only [parseWithin]
          cases chooses : dialect.parseRules.find? fun rule => rule.accepts target tree with
          | none => rfl
          | some rule =>
              have standard := builtIn.parse rule (List.mem_of_find?_eq_some chooses)
              have accepted := List.find?_some chooses
              apply Parsing.local_standard rule standard _ _ _ _ accepted
              intro part branch smaller
              exact inductionHypothesis (by omega) (by omega)

/-- Parsing by a chain of standard rules, without levels: the first rule that accepts
parses the tree, and hands its elements to the same chain. -/
theorem parse_eq [Pattern.Library] (builtIn : dialect.BuiltIn) {target : ValueType}
    {tree : Tree String}
    {rule : ParseRule} (chooses : dialect.parseRuleFor? target tree = some rule) :
    dialect.parse target tree = rule.parse dialect.parse target tree := by
  unfold parseRuleFor? at chooses
  have standard := builtIn.parse rule (List.mem_of_find?_eq_some chooses)
  have accepted := List.find?_some chooses
  have step : dialect.parse target tree =
      rule.parse (dialect.parseWithin (target.nesting + tree.nesting)) target tree := by
    simp only [parse, parseLevels, parseWithin, chooses]
  rw [step]
  apply Parsing.local_standard rule standard _ _ _ _ accepted
  intro part branch smaller
  exact parseWithin_congr builtIn smaller (Nat.lt_succ_self _)

/-! ## The usual chain -/

section Usual

variable [Pattern.Library] (format : NumberFormat)

theorem parse_bool (text : String) :
    (standard.withFormat format).parse .bool (.text text) =
      Parsing.orFailed .bool text
        ((Parsing.readBool? (Text.trim text.toList)).map TypedValue.bool) := by
  have chooses : (standard.withFormat format).parseRuleFor? .bool (.text text) =
      some Parsing.boolean := rfl
  rw [parse_eq (builtIn_standard format) chooses]
  simp only [Parsing.boolean, Tree.value_leaf]

theorem parse_int (text : String) :
    (standard.withFormat format).parse .int (.text text) =
      Parsing.orFailed .int text
        ((Decimal.readInt64? (Text.trim text.toList)).map TypedValue.int) := by
  have chooses : (standard.withFormat format).parseRuleFor? .int (.text text) =
      some Parsing.integer := rfl
  rw [parse_eq (builtIn_standard format) chooses]
  simp only [Parsing.integer, Tree.value_leaf]

theorem parse_float (text : String) :
    (standard.withFormat format).parse .float (.text text) =
      Parsing.orFailed .float text
        ((Parsing.readFloat? (Text.trim text.toList)).map TypedValue.float) := by
  have chooses : (standard.withFormat format).parseRuleFor? .float (.text text) =
      some Parsing.float := rfl
  rw [parse_eq (builtIn_standard format) chooses]
  simp only [Parsing.float, Tree.value_leaf]

theorem parse_text (text : String) :
    (standard.withFormat format).parse .text (.text text) = .ok (.text text) := rfl

theorem parse_list (element : ValueType) (tree : Tree String) :
    (standard.withFormat format).parse (.list element) tree =
      (Parsing.parseItems (standard.withFormat format).parse element
        (Parsing.elementTrees tree)).map (TypedValue.list element) := by
  have chooses : (standard.withFormat format).parseRuleFor? (.list element) tree =
      some Parsing.list := rfl
  rw [parse_eq (builtIn_standard format) chooses]
  rfl

end Usual

/-! ## Arguments -/

theorem parseArguments_eq_mapM (dialect : Dialect) (parameters : List ValueType)
    (trees : List (Tree String)) :
    dialect.parseArguments parameters trees =
      (parameters.zip trees).mapM fun argument => dialect.parse argument.1 argument.2 := by
  induction parameters generalizing trees with
  | nil =>
      simp only [parseArguments]
      rfl
  | cons parameter parameters inductionHypothesis =>
      cases trees with
      | nil =>
          simp only [parseArguments]
          rfl
      | cons tree trees =>
          rw [parseArguments, inductionHypothesis, List.zip_cons_cons, List.mapM_cons]

/-- Each parsed argument is the parse of its tree for its parameter. -/
theorem parse_of_parseArguments {parameters : List ValueType} {trees : List (Tree String)}
    {arguments : Arguments} (parsed : dialect.parseArguments parameters trees = .ok arguments)
    {position : Nat} {parameter : ValueType} {tree : Tree String}
    (declared : parameters[position]? = some parameter)
    (given : trees[position]? = some tree) :
    ∃ argument, arguments[position]? = some argument ∧
      dialect.parse parameter tree = .ok argument := by
  rw [parseArguments_eq_mapM, mapM_eq_ok_iff] at parsed
  have pair : (parameters.zip trees)[position]? = some (parameter, tree) :=
    List.getElem?_zip_eq_some.mpr ⟨declared, given⟩
  have here := congrArg (fun results => results[position]?) parsed
  rw [List.getElem?_map, pair, List.getElem?_map, Option.map_some] at here
  obtain ⟨argument, found, same⟩ := Option.map_eq_some_iff.mp here.symm
  exact ⟨argument, found, same.symm⟩

end Dialect

end ListInvocation
