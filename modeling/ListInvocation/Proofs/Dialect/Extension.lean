import ListInvocation.Proofs.Dialect.Composition
import ListInvocation.Proofs.Dialect.Invocation
import ListInvocation.Proofs.Dialect.Parsing
import ListInvocation.Platform

/-!
Contract: rules that are appended to a chain of standard rules only add answers.

A standard rule hands parts of its work to the whole chain, and so to the appended rules as
well. They are asked only where the chain had no answer, at any depth.

Owns: answers that are kept, the rules that keep them, and the five services of an extended
dialect.

Does not own: the answers that appended rules add.
-/

namespace ListInvocation

/-! ## Answers that are kept -/

/-- Whatever the first computation answers, the second one answers too. -/
def Kept {α : Type} (first second : Except Failure α) : Prop :=
  ∀ answer, first = .ok answer → second = .ok answer

namespace Kept

variable {α β : Type} {first second : Except Failure α}

theorem refl (first : Except Failure α) : Kept first first :=
  fun _ answered => answered

theorem of_error (failure : Failure) (second : Except Failure α) :
    Kept (.error failure) second :=
  nofun

theorem bind {next further : α → Except Failure β} (kept : Kept first second)
    (laterKept : ∀ value, Kept (next value) (further value)) :
    Kept (first >>= next) (second >>= further) := by
  intro answer answered
  cases first with
  | error failure => contradiction
  | ok value =>
      rw [kept value rfl]
      exact laterKept value answer answered

theorem map (change : α → β) (kept : Kept first second) :
    Kept (first.map change) (second.map change) := by
  intro answer answered
  cases first with
  | error failure => contradiction
  | ok value =>
      rw [kept value rfl]
      exact answered

theorem mapM {step further : α → Except Failure β}
    (kept : ∀ item, Kept (step item) (further item)) (items : List α) :
    Kept (items.mapM step) (items.mapM further) := by
  induction items with
  | nil => exact .refl _
  | cons item items inductionHypothesis =>
      rw [List.mapM_cons, List.mapM_cons]
      exact (kept item).bind fun _ => inductionHypothesis.bind fun _ => .refl _

end Kept

/-! ## Rules that keep answers -/

namespace Composition

theorem composeItems_kept {first second : Composer}
    (kept : ∀ value, Kept (first value) (second value)) (items : List TypedValue) :
    Kept (composeItems first items) (composeItems second items) := by
  rw [composeItems_eq_mapM, composeItems_eq_mapM]
  exact .mapM kept items

/-- A rule that keeps its answers when its composer answers more. -/
def Steady (rule : ComposeRule) : Prop :=
  ∀ (format : NumberFormat) (first second : Composer) (value : TypedValue),
    (∀ part, Kept (first part) (second part)) →
      Kept (rule.compose format first value) (rule.compose format second value)

theorem steady_list : Steady list := by
  intro format first second value kept
  cases shape : value.value with
  | list items =>
      simp only [list, shape]
      exact (composeItems_kept kept items).map Tree.list
  | _ =>
      simp only [list, shape]
      exact .refl _

/-- All standard rules but the one of lists compose without the chain. -/
theorem steady_standard : ∀ rule ∈ standard, Steady rule := by
  simp only [standard, List.forall_mem_cons]
  refine ⟨?_, ?_, ?_, ?_, steady_list, ?_, List.forall_mem_nil _⟩ <;>
    exact fun _ _ _ _ _ => .refl _

end Composition

namespace Parsing

theorem parseItems_kept {first second : Parser}
    (kept : ∀ target tree, Kept (first target tree) (second target tree))
    (element : ValueType) (trees : List (Tree String)) :
    Kept (parseItems first element trees) (parseItems second element trees) := by
  rw [parseItems_eq_mapM, parseItems_eq_mapM]
  exact .mapM (kept element) trees

/-- A rule that keeps its answers when its parser answers more. -/
def Steady (rule : ParseRule) : Prop :=
  ∀ (first second : Parser) (target : ValueType) (tree : Tree String),
    (∀ part branch, Kept (first part branch) (second part branch)) →
      Kept (rule.parse first target tree) (rule.parse second target tree)

theorem steady_list : Steady list := by
  intro first second target tree kept
  exact (parseItems_kept kept _ _).map _

/-- All standard rules but the one of lists parse without the chain. -/
theorem steady_standard : ∀ rule ∈ standard, Steady rule := by
  simp only [standard, List.forall_mem_cons]
  refine ⟨?_, ?_, ?_, ?_, steady_list, List.forall_mem_nil _⟩ <;> exact fun _ _ _ _ _ => .refl _

end Parsing

namespace Comparison

/-- A rule that keeps its verdicts when its composer answers more. -/
def Steady (rule : CompareRule) : Prop :=
  ∀ (first second : Composer) (actual : TypedValue) (expected : Tree String),
    (∀ part, Kept (first part) (second part)) →
      Kept (rule.judge first actual expected) (rule.judge second actual expected)

/-- A pattern is judged on the composed result, where it compiles. -/
theorem steady_pattern [Pattern.Library] : Steady pattern := by
  intro first second actual expected kept
  simp only [pattern]
  split
  next => exact .refl _
  next =>
    split
    next => exact .refl _
    next source _ =>
      cases Pattern.Library.compile source with
      | error _ => exact .refl _
      | ok compiled =>
          cases composed : first actual with
          | error failure => exact .of_error failure _
          | ok tree =>
              rw [kept actual tree composed]
              exact .refl _

theorem steady_exact : Steady exact := by
  intro first second actual expected kept
  exact (kept actual).map _

variable [Pattern.Library]

theorem steady_standard : ∀ rule ∈ standard, Steady rule := by
  simp only [standard, List.forall_mem_cons]
  refine ⟨?_, ?_, steady_pattern, steady_exact, List.forall_mem_nil _⟩ <;>
    exact fun _ _ _ _ _ => .refl _

end Comparison

/-! ## Extended dialects -/

namespace Dialect

/-- A dialect that answers whatever another one answers, in all five services, and leaves
the same instances behind. -/
structure Conserves (dialect extended : Dialect) : Prop where
  compose (value : TypedValue) (tree : Tree String) :
    dialect.compose value = .ok tree → extended.compose value = .ok tree
  parse (target : ValueType) (tree : Tree String) (value : TypedValue) :
    dialect.parse target tree = .ok value → extended.parse target tree = .ok value
  parseArguments (parameters : List ValueType) (trees : List (Tree String))
      (arguments : Arguments) :
    dialect.parseArguments parameters trees = .ok arguments →
      extended.parseArguments parameters trees = .ok arguments
  compare (actual : TypedValue) (expected : Tree String) (verdict : Bool) :
    dialect.compare actual expected = .ok verdict →
      extended.compare actual expected = .ok verdict
  invoke (table after : InstanceTable) (request : Request) (value : TypedValue) :
    dialect.invoke table request = (.ok value, after) →
      extended.invoke table request = (.ok value, after)

variable {dialect : Dialect}

/-- The first rule that accepts is still the first one with rules behind the chain. -/
theorem find?_append_of_some {α : Type} {accepts : α → Bool} {rules : List α} {rule : α}
    (chosen : rules.find? accepts = some rule) (appended : List α) :
    (rules ++ appended).find? accepts = some rule := by
  rw [List.find?_append, chosen, Option.some_or]

variable [Pattern.Library]

/-- The induction is on the levels, so that a rule finds the answers for parts kept. -/
theorem composeWithin_extend (builtIn : dialect.BuiltIn) (further : Dialect) (levels : Nat)
    (value : TypedValue) :
    Kept (dialect.composeWithin levels value)
      ((dialect.extend further).composeWithin levels value) := by
  induction levels generalizing value with
  | zero => exact .of_error _ _
  | succ levels inductionHypothesis =>
      simp only [composeWithin]
      cases chooses : dialect.composeRules.find? fun rule => rule.accepts value with
      | none => exact .of_error _ _
      | some rule =>
          have standard := builtIn.compose rule (List.mem_of_find?_eq_some chooses)
          have stillChosen : (dialect.extend further).composeRules.find?
              (fun rule => rule.accepts value) = some rule :=
            find?_append_of_some chooses further.composeRules
          rw [stillChosen]
          exact Composition.steady_standard rule standard _ _ _ _ inductionHypothesis

theorem compose_extend (builtIn : dialect.BuiltIn) (further : Dialect) (value : TypedValue) :
    Kept (dialect.compose value) ((dialect.extend further).compose value) :=
  composeWithin_extend builtIn further _ value

theorem parseWithin_extend (builtIn : dialect.BuiltIn) (further : Dialect) (levels : Nat)
    (target : ValueType) (tree : Tree String) :
    Kept (dialect.parseWithin levels target tree)
      ((dialect.extend further).parseWithin levels target tree) := by
  induction levels generalizing target tree with
  | zero => exact .of_error _ _
  | succ levels inductionHypothesis =>
      simp only [parseWithin]
      cases chooses : dialect.parseRules.find? fun rule => rule.accepts target tree with
      | none => exact .of_error _ _
      | some rule =>
          have standard := builtIn.parse rule (List.mem_of_find?_eq_some chooses)
          have stillChosen : (dialect.extend further).parseRules.find?
              (fun rule => rule.accepts target tree) = some rule :=
            find?_append_of_some chooses further.parseRules
          rw [stillChosen]
          exact Parsing.steady_standard rule standard _ _ _ _ inductionHypothesis

theorem parse_extend (builtIn : dialect.BuiltIn) (further : Dialect) (target : ValueType)
    (tree : Tree String) :
    Kept (dialect.parse target tree) ((dialect.extend further).parse target tree) :=
  parseWithin_extend builtIn further _ target tree

theorem parseArguments_extend (builtIn : dialect.BuiltIn) (further : Dialect)
    (parameters : List ValueType) (trees : List (Tree String)) :
    Kept (dialect.parseArguments parameters trees)
      ((dialect.extend further).parseArguments parameters trees) := by
  rw [parseArguments_eq_mapM, parseArguments_eq_mapM]
  exact .mapM (fun (parameter, tree) => parse_extend builtIn further parameter tree) _

/-- Further rules are asked only where all rules of the chain passed. -/
theorem judgeBy_extend (builtIn : dialect.BuiltIn) (further : Dialect) (actual : TypedValue)
    (expected : Tree String) {rules : List CompareRule}
    (standard : ∀ rule ∈ rules, rule ∈ Comparison.standard) (appended : List CompareRule) :
    Kept (dialect.judgeBy actual expected rules)
      ((dialect.extend further).judgeBy actual expected (rules ++ appended)) := by
  induction rules with
  | nil => exact .of_error _ _
  | cons rule rules inductionHypothesis =>
      have rest := inductionHypothesis fun other member =>
        standard other (List.mem_cons_of_mem rule member)
      have judged := Comparison.steady_standard rule (standard rule List.mem_cons_self) _ _
        actual expected (compose_extend builtIn further)
      simp only [judgeBy, List.cons_append]
      apply judged.bind
      intro verdict
      cases verdict with
      | notApplicable => exact rest
      | matched => exact .refl _
      | mismatched => exact .refl _

theorem compare_extend (builtIn : dialect.BuiltIn) (further : Dialect) (actual : TypedValue)
    (expected : Tree String) :
    Kept (dialect.compare actual expected)
      ((dialect.extend further).compare actual expected) :=
  judgeBy_extend builtIn further actual expected builtIn.compare further.compareRules

section Requests

variable {table : InstanceTable} {request : Request}

omit [Pattern.Library] in
theorem ruleFor?_extend {rule : InvokeRule}
    (chosen : dialect.ruleFor? table request = some rule) (further : Dialect) :
    (dialect.extend further).ruleFor? table request = some rule :=
  find?_append_of_some chosen further.invokeRules

omit [Pattern.Library] in
theorem Chosen.extend {id : String} (chosen : Chosen dialect table request id)
    (further : Dialect) : Chosen (dialect.extend further) table request id := by
  cases chosen with
  | target rule => exact .target (ruleFor?_extend rule further)
  | library rule available => exact .library (ruleFor?_extend rule further) available

/-- A request that enters a body enters the same body with the same arguments. -/
theorem Enters.extend {id : String} {bound : Instance} {method : Method}
    {arguments : Arguments} (builtIn : dialect.BuiltIn)
    (enters : Enters dialect table request id bound method arguments) (further : Dialect) :
    Enters (dialect.extend further) table request id bound method arguments where
  targetBound := enters.targetBound
  chosen := enters.chosen.extend further
  found := enters.found
  offered := enters.offered
  parsed := parseArguments_extend builtIn further _ _ _ enters.parsed

/-- Only a request that entered a body is answered. -/
theorem invoke_extend (builtIn : dialect.BuiltIn) (further : Dialect) {value : TypedValue}
    (answered : (dialect.invoke table request).1 = .ok value) :
    (dialect.extend further).invoke table request = dialect.invoke table request := by
  rcases invoke_cases builtIn table request with stopped | entered
  · obtain ⟨failure, stops⟩ := stopped
    rw [stops.invoke_eq] at answered
    contradiction
  · obtain ⟨id, bound, method, arguments, enters⟩ := entered
    rw [enters.invoke_eq, (enters.extend builtIn further).invoke_eq]

end Requests

/-- Any rules whatever, appended to the chains of a dialect of standard rules, leave all its
answers as they are. -/
theorem conserves_extend (builtIn : dialect.BuiltIn) (further : Dialect) :
    dialect.Conserves (dialect.extend further) where
  compose value := compose_extend builtIn further value
  parse target tree := parse_extend builtIn further target tree
  parseArguments parameters trees := parseArguments_extend builtIn further parameters trees
  compare actual expected := compare_extend builtIn further actual expected
  invoke table after request value answered := by
    rw [invoke_extend builtIn further (congrArg Prod.fst answered), answered]

end Dialect

end ListInvocation

namespace ListInvocation.Dialect

/-- Rules that accept everything, and answer every value with the same text and every
request with no instances. -/
def overbearing : Dialect where
  composeRules := [⟨fun _ => true, fun _ _ _ => .ok (.text "other")⟩]
  parseRules := [⟨fun _ _ => true, fun _ _ _ => .ok (.text "other")⟩]
  compareRules := [⟨fun _ _ _ => .ok .matched⟩]
  invokeRules := [⟨fun _ _ => true, fun _ _ _ => (.ok (.text "other"), .empty)⟩]
  format := .invariant

/-- Chains in an unusual order: two rules for lists, and none for absent values and texts. -/
def listsFirst : Dialect where
  composeRules := [Composition.list, Composition.boolean, Composition.list]
  parseRules := [Parsing.list, Parsing.boolean]
  compareRules := [Comparison.exact, Comparison.range]
  invokeRules := [Invocation.library, Invocation.direct]
  format := .invariant

theorem builtIn_listsFirst : listsFirst.BuiltIn := by
  constructor <;>
    simp [listsFirst, Composition.standard, Parsing.standard, Comparison.standard,
      Invocation.standard]

/-- A nested list is composed, parsed and judged as without the rules behind. -/
theorem conserves_extend_overbearing :
    listsFirst.BuiltIn ∧
      (listsFirst.extend overbearing).compose (.list (.list .bool) [.list .bool [.bool true]]) =
        .ok (.list [.list [.text "true"]]) ∧
      (listsFirst.extend overbearing).parse (.list (.list .bool)) (.list [.text "[ TRUE ]"]) =
        .ok (.list (.list .bool) [.list .bool [.bool true]]) ∧
      (listsFirst.extend overbearing).compare (.list .bool [.bool true]) (.text "[true]") =
        .ok false := by
  have conserves := conserves_extend builtIn_listsFirst overbearing
  refine ⟨builtIn_listsFirst, ?_, ?_, ?_⟩
  · exact conserves.compose _ _ rfl
  · exact conserves.parse _ _ _ (by with_unfolding_all rfl)
  · exact conserves.compare _ _ _ (by with_unfolding_all rfl)

end ListInvocation.Dialect
