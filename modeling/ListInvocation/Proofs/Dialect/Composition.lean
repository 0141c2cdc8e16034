import ListInvocation.Proofs.Dialect.BuiltIn
import ListInvocation.Proofs.Steps

/-!
Contract: a chain of standard rules composes a value with the whole chain on its items.

The levels that composition counts down are never used up, so they can be left out of
every equation.

Owns: the rules that hand on smaller values only, the equation of a chain of standard
rules, its compositions of failures and truth values, the compositions of the usual chain by
the kind of the value, and that it composes every value.

Does not own: the reading of composed trees.
-/

namespace ListInvocation

/-! ## Smaller values -/

theorem Value.nestingTyped_eq (item : TypedValue) : nestingTyped item = item.nesting := by
  cases item
  rfl

theorem Value.nesting_le_nestingAll {items : List TypedValue} {item : TypedValue}
    (member : item ∈ items) : item.nesting ≤ nestingAll items := by
  induction items with
  | nil => exact absurd member List.not_mem_nil
  | cons first rest inductionHypothesis =>
      unfold nestingAll
      rw [nestingTyped_eq]
      rcases List.mem_cons.mp member with here | later
      · rw [here]
        exact Nat.le_max_left _ _
      · exact Nat.le_trans (inductionHypothesis later) (Nat.le_max_right _ _)

/-- An item has fewer list levels than its list. -/
theorem TypedValue.nesting_lt_of_mem {value : TypedValue} {items : List TypedValue}
    (isList : value.value = .list items) {item : TypedValue} (member : item ∈ items) :
    item.nesting < value.nesting := by
  have levels : value.nesting = Value.nestingAll items + 1 := by
    unfold nesting
    rw [isList]
    rfl
  have bound := Value.nesting_le_nestingAll member
  omega

namespace Composition

theorem composeItems_eq_mapM (composer : Composer) (items : List TypedValue) :
    composeItems composer items = items.mapM composer := by
  induction items with
  | nil => rfl
  | cons item items inductionHypothesis =>
      rw [composeItems, inductionHypothesis, List.mapM_cons]

theorem composeItems_congr {first second : Composer} {items : List TypedValue}
    (agree : ∀ item ∈ items, first item = second item) :
    composeItems first items = composeItems second items := by
  rw [composeItems_eq_mapM, composeItems_eq_mapM, mapM_congr agree]

theorem exists_composeItems {composer : Composer} {items : List TypedValue}
    (each : ∀ item ∈ items, ∃ tree, composer item = .ok tree) :
    ∃ trees, composeItems composer items = .ok trees := by
  rw [composeItems_eq_mapM]
  exact exists_mapM each

/-- A rule that asks for the composition of smaller values only. -/
def Local (rule : ComposeRule) : Prop :=
  ∀ (format : NumberFormat) (first second : Composer) (value : TypedValue),
    (∀ part : TypedValue, part.nesting < value.nesting → first part = second part) →
      rule.compose format first value = rule.compose format second value

theorem local_list : Local list := by
  intro format first second value agree
  cases shape : value.value with
  | list items =>
      have same := composeItems_congr fun item member =>
        agree item (TypedValue.nesting_lt_of_mem shape member)
      simp only [list, shape, same]
  | _ => simp only [list, shape]

/-- All standard rules but the one of lists compose without the chain. -/
theorem local_standard : ∀ rule ∈ standard, Local rule := by
  intro rule member
  simp only [standard, List.mem_cons, List.not_mem_nil, or_false] at member
  rcases member with same | same | same | same | same | same
  · rw [same]
    exact fun _ _ _ _ _ => rfl
  · rw [same]
    exact fun _ _ _ _ _ => rfl
  · rw [same]
    exact fun _ _ _ _ _ => rfl
  · rw [same]
    exact fun _ _ _ _ _ => rfl
  · rw [same]
    exact local_list
  · rw [same]
    exact fun _ _ _ _ _ => rfl

/-- A standard rule composes any value, accepted or not, whose items are composed. -/
theorem exists_of_mem_standard {rule : ComposeRule} (isStandard : rule ∈ standard)
    {format : NumberFormat} {composer : Composer} {value : TypedValue}
    (each : ∀ items, value.value = .list items →
      ∀ item ∈ items, ∃ tree, composer item = .ok tree) :
    ∃ tree, rule.compose format composer value = .ok tree := by
  simp only [standard, List.mem_cons, List.not_mem_nil, or_false] at isStandard
  rcases isStandard with rfl | rfl | rfl | rfl | rfl | rfl
  · exact ⟨_, rfl⟩
  · exact ⟨_, rfl⟩
  · simp only [failure]
    split <;> exact ⟨_, rfl⟩
  · simp only [boolean]
    split <;> exact ⟨_, rfl⟩
  · simp only [list]
    split
    next items shape =>
      obtain ⟨trees, composed⟩ := exists_composeItems (each items shape)
      exact ⟨.list trees, by rw [composed]; rfl⟩
    next => exact ⟨_, rfl⟩
  · exact ⟨_, rfl⟩

/-- The plain text of a truth value is no word in small letters. -/
theorem composePlain_ne_word (format : NumberFormat) {value : TypedValue} {truth : Bool}
    (isTruth : value.value = .bool truth) :
    composePlain format value ≠ .text (if truth then "true" else "false") := by
  unfold composePlain
  rw [isTruth]
  by_cases isVoid : value.isVoid = true
  · rw [if_pos isVoid]
    cases truth <;> simp [voidSentinel]
  · rw [if_neg isVoid]
    cases truth <;> simp [plainText, plainBool]

end Composition

/-! ## Chains of standard rules -/

namespace Dialect

variable {dialect : Dialect}

/-- The rule that composes a value. -/
def composeRuleFor? (dialect : Dialect) (value : TypedValue) : Option ComposeRule :=
  dialect.composeRules.find? fun rule => rule.accepts value

/-- More levels than the value has make no difference. -/
theorem composeWithin_congr [Pattern.Library] (builtIn : dialect.BuiltIn) {first second : Nat}
    {value : TypedValue} (enough : value.nesting < first) (alsoEnough : value.nesting < second) :
    dialect.composeWithin first value = dialect.composeWithin second value := by
  induction first generalizing second value with
  | zero => exact absurd enough (Nat.not_lt_zero _)
  | succ first inductionHypothesis =>
      cases second with
      | zero => exact absurd alsoEnough (Nat.not_lt_zero _)
      | succ second =>
          simp only [composeWithin]
          cases chooses : dialect.composeRules.find? fun rule => rule.accepts value with
          | none => rfl
          | some rule =>
              have standard := builtIn.compose rule (List.mem_of_find?_eq_some chooses)
              apply Composition.local_standard rule standard
              intro part smaller
              exact inductionHypothesis (by omega) (by omega)

/-- Composition by a chain of standard rules, without levels: the first rule that accepts
composes the value, and hands its parts to the same chain. -/
theorem compose_eq [Pattern.Library] (builtIn : dialect.BuiltIn) {value : TypedValue}
    {rule : ComposeRule} (chooses : dialect.composeRuleFor? value = some rule) :
    dialect.compose value = rule.compose dialect.format dialect.compose value := by
  unfold composeRuleFor? at chooses
  have standard := builtIn.compose rule (List.mem_of_find?_eq_some chooses)
  have step : dialect.compose value =
      rule.compose dialect.format (dialect.composeWithin value.nesting) value := by
    simp only [compose, composeWithin, chooses]
  rw [step]
  apply Composition.local_standard rule standard
  intro part smaller
  exact composeWithin_congr builtIn smaller (Nat.lt_succ_self part.nesting)

/-- What no rule accepts is not composed. -/
theorem compose_of_unaccepted {value : TypedValue}
    (unaccepted : dialect.composeRuleFor? value = none) :
    dialect.compose value = .error (.operatorMissing .compose value.declared) := by
  unfold composeRuleFor? at unaccepted
  simp only [compose, composeWithin, unaccepted]

theorem accepts_of_composeRuleFor? {value : TypedValue} {rule : ComposeRule}
    (chooses : dialect.composeRuleFor? value = some rule) : rule.accepts value = true := by
  unfold composeRuleFor? at chooses
  have accepted := List.find?_some chooses
  exact accepted

/-! ## Single values -/

variable [Pattern.Library]

/-- A chain of standard rules composes a failure as its exception text or, where no rule of
failures stands before the last rule, as its message. -/
theorem compose_failure (builtIn : dialect.BuiltIn) {failure : Failure} {tree : Tree String}
    (composed : dialect.compose (.failure failure) = .ok tree) :
    tree = .text failure.exceptionText ∨ tree = .text failure.message := by
  cases chooses : dialect.composeRuleFor? (.failure failure) with
  | none =>
      rw [compose_of_unaccepted chooses] at composed
      contradiction
  | some rule =>
      have accepted := accepts_of_composeRuleFor? chooses
      have standard := builtIn.compose rule (List.mem_of_find?_eq_some chooses)
      rw [compose_eq builtIn chooses] at composed
      simp only [Composition.standard, List.mem_cons, List.not_mem_nil, or_false] at standard
      rcases standard with rfl | rfl | rfl | rfl | rfl | rfl
      · contradiction
      · contradiction
      · exact .inl (Except.ok.inj composed).symm
      · contradiction
      · contradiction
      · exact .inr (Except.ok.inj composed).symm

/-- A chain of standard rules composes a truth value as a word in small letters, if this is
what its rule of truth values does, and in no other case. -/
theorem compose_eq_word_iff (builtIn : dialect.BuiltIn) {value : TypedValue} {truth : Bool}
    (isTruth : value.value = .bool truth) :
    dialect.compose value = .ok (.text (if truth then "true" else "false")) ↔
      dialect.composeRuleFor? value = some Composition.boolean := by
  constructor
  · intro composed
    cases chooses : dialect.composeRuleFor? value with
    | none =>
        rw [compose_of_unaccepted chooses] at composed
        contradiction
    | some rule =>
        have accepted := accepts_of_composeRuleFor? chooses
        have standard := builtIn.compose rule (List.mem_of_find?_eq_some chooses)
        rw [compose_eq builtIn chooses] at composed
        simp only [Composition.standard, List.mem_cons, List.not_mem_nil, or_false] at standard
        rcases standard with rfl | rfl | rfl | rfl | rfl | rfl
        · cases truth <;> simp [Composition.void, Composition.voidSentinel] at composed
        · simp [Composition.null, TypedValue.isNull, isTruth, Value.isNull] at accepted
        · simp [Composition.failure, isTruth] at accepted
        · rfl
        · simp [Composition.list, isTruth] at accepted
        · exact absurd (Except.ok.inj composed)
            (Composition.composePlain_ne_word dialect.format isTruth)
  · intro chooses
    rw [compose_eq builtIn chooses]
    simp [Composition.boolean, isTruth]

/-! ## The usual chain -/

section Usual

variable (format : NumberFormat)

theorem compose_bool (truth : Bool) :
    (standard.withFormat format).compose (.bool truth) =
      .ok (.text (if truth then "true" else "false")) := rfl

theorem compose_int (number : Int64) :
    (standard.withFormat format).compose (.int number) =
      .ok (.text (format.renderInt number)) := rfl

theorem compose_text (text : String) :
    (standard.withFormat format).compose (.text text) = .ok (.text text) := rfl

theorem compose_list (element : ValueType) (items : List TypedValue) :
    (standard.withFormat format).compose (.list element items) =
      (Composition.composeItems (standard.withFormat format).compose items).map
        Tree.list := by
  have chooses : (standard.withFormat format).composeRuleFor? (.list element items) =
      some Composition.list := rfl
  rw [compose_eq (builtIn_standard format) chooses]
  rfl

/-- Every value is composed: the last rule accepts what no other one does. -/
theorem exists_compose (value : TypedValue) :
    ∃ tree, (standard.withFormat format).compose value = .ok tree := by
  induction levels : value.nesting using Nat.strongRecOn generalizing value with
  | ind depth inductionHypothesis =>
      cases chooses : (standard.withFormat format).composeRuleFor? value with
      | none =>
          have unaccepted := List.find?_eq_none.mp chooses Composition.plain (by
            simp [standard, withFormat, Composition.standard])
          exact absurd rfl unaccepted
      | some rule =>
          have isStandard : rule ∈ Composition.standard := List.mem_of_find?_eq_some chooses
          rw [compose_eq (builtIn_standard format) chooses]
          apply Composition.exists_of_mem_standard isStandard
          intro items shape item member
          exact inductionHypothesis item.nesting
            (levels ▸ TypedValue.nesting_lt_of_mem shape member) item rfl

end Usual

end Dialect

end ListInvocation
