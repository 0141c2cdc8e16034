import ListInvocation.Proofs.Dialect.Composition

/-!
Contract: composition keeps the shape of a value, and only floats depend on the format.

A list is composed as a list node and everything else as a leaf, so that each path through a
value is a path through its composition. A value of the type `void` is a leaf, whatever it
holds.

Owns: the items of a value along a path, values without floats, the equation of the usual
chain for lists and for leaves, what a composed tree shows of its value, and the compositions
of one value in two formats.

Does not own: the texts of numbers.
-/

namespace ListInvocation

/-! ## Values -/

namespace TypedValue

/-- A list that is composed item by item. -/
def Listed (value : TypedValue) : Prop :=
  value.declared ≠ .void ∧ ∃ items, value.value = .list items

def items (value : TypedValue) : List TypedValue :=
  if value.declared = .void then [] else value.value.asList?.getD []

/-- Follows one item index per path element; the empty path is the value itself. -/
def itemAt? : TypedValue → List Nat → Option TypedValue
  | value, [] => some value
  | value, index :: path =>
      match value.items[index]? with
      | some item => item.itemAt? path
      | none => none

/-- A value that is no float and holds none, at any depth. -/
inductive FloatFree : TypedValue → Prop where
  | intro {value : TypedValue} : (∀ number, value.value ≠ .float number) →
      (∀ items, value.value = .list items → ∀ item ∈ items, FloatFree item) → FloatFree value

theorem items_of_list {value : TypedValue} {items : List TypedValue}
    (typed : value.declared ≠ .void) (content : value.value = .list items) :
    value.items = items := by
  rw [TypedValue.items, if_neg typed, content]
  rfl

theorem items_of_not_listed {value : TypedValue} (unlisted : ¬ value.Listed) :
    value.items = [] := by
  unfold items
  by_cases isVoid : value.declared = .void
  · rw [if_pos isVoid]
  · rw [if_neg isVoid]
    cases content : value.value with
    | list items => exact absurd ⟨isVoid, items, content⟩ unlisted
    | _ => rfl

end TypedValue

/-! ## Lists and leaves -/

namespace Composition

theorem composeItems_eq_ok_iff {composer : Composer} {items : List TypedValue}
    {trees : List (Tree String)} :
    composeItems composer items = .ok trees ↔ items.map composer = trees.map .ok := by
  rw [composeItems_eq_mapM, mapM_eq_ok_iff]

/-- The text of a value that is composed as a leaf. -/
def leafText (format : NumberFormat) (value : TypedValue) : String :=
  if value.declared = .void then voidSentinel
  else
    match value.value with
    | .failure failure => failure.exceptionText
    | .bool truth => if truth then "true" else "false"
    | other => plainText format other

/-- Neither a sentinel nor a failure, a truth value, an integer or a text depends on the
format of numbers. -/
theorem leafText_congr (first second : NumberFormat) {value : TypedValue}
    (unlisted : ¬ value.Listed) (notFloat : ∀ number, value.value ≠ .float number) :
    leafText first value = leafText second value := by
  unfold leafText
  by_cases isVoid : value.declared = .void
  · rw [if_pos isVoid, if_pos isVoid]
  · rw [if_neg isVoid, if_neg isVoid]
    cases content : value.value with
    | list items => exact absurd ⟨isVoid, items, content⟩ unlisted
    | float number => exact absurd content (notFloat number)
    | _ => rfl

end Composition

variable [Pattern.Library]

namespace Dialect

open ListInvocation.Composition

section Usual

variable (format : NumberFormat) {value : TypedValue}

/-- Any value but one of the type `void` is composed by the rule of its kind. -/
theorem composeRuleFor?_of_typed (typed : value.declared ≠ .void) :
    (standard.withFormat format).composeRuleFor? value =
      some (match value.value with
        | .null => Composition.null
        | .failure _ => Composition.failure
        | .bool _ => Composition.boolean
        | .list _ => Composition.list
        | _ => Composition.plain) := by
  cases content : value.value <;>
    simp [composeRuleFor?, standard, withFormat, Composition.standard, Composition.void,
      Composition.null, Composition.failure, Composition.boolean, Composition.list,
      Composition.plain, TypedValue.isVoid, TypedValue.isNull, Value.isNull, typed, content]

theorem compose_of_list {items : List TypedValue} (typed : value.declared ≠ .void)
    (content : value.value = .list items) :
    (standard.withFormat format).compose value =
      (composeItems (standard.withFormat format).compose items).map Tree.list := by
  have chooses := composeRuleFor?_of_typed format typed
  rw [content] at chooses
  rw [compose_eq (builtIn_standard format) chooses]
  simp only [Composition.list, content]

theorem compose_of_not_listed (unlisted : ¬ value.Listed) :
    (standard.withFormat format).compose value = .ok (.text (leafText format value)) := by
  by_cases isVoid : value.declared = .void
  · obtain ⟨declared, content⟩ := value
    cases isVoid
    rfl
  · have chooses := composeRuleFor?_of_typed format isVoid
    have notVoid : value.isVoid = false := by simpa [TypedValue.isVoid] using isVoid
    rw [compose_eq (builtIn_standard format) chooses, leafText, if_neg isVoid]
    cases content : value.value with
    | list items => exact absurd ⟨isVoid, items, content⟩ unlisted
    | null => rfl
    | failure failure => simp only [Composition.failure, content]
    | bool truth => simp only [Composition.boolean, content]
    | _ => simp [Composition.plain, composePlain, notVoid, content, withFormat]

/-- The composition of a list has a branch for each item, in their order. -/
theorem exists_compose_list {items : List TypedValue} (typed : value.declared ≠ .void)
    (content : value.value = .list items) :
    ∃ branches, (standard.withFormat format).compose value = .ok (.list branches) ∧
      items.map (standard.withFormat format).compose = branches.map .ok := by
  obtain ⟨branches, composed⟩ := exists_composeItems fun item (_ : item ∈ items) =>
    exists_compose format item
  refine ⟨branches, ?_, composeItems_eq_ok_iff.mp composed⟩
  rw [compose_of_list format typed content, composed]
  rfl

/-! ## Paths -/

theorem map_items_of_compose {tree : Tree String}
    (composed : (standard.withFormat format).compose value = .ok tree) :
    value.items.map (standard.withFormat format).compose = tree.branches.map .ok := by
  by_cases listed : value.Listed
  · obtain ⟨typed, items, content⟩ := listed
    obtain ⟨branches, inBranches, each⟩ := exists_compose_list format typed content
    rw [composed] at inBranches
    cases inBranches
    rw [TypedValue.items_of_list typed content]
    exact each
  · rw [compose_of_not_listed format listed] at composed
    cases composed
    rw [TypedValue.items_of_not_listed listed]
    rfl

/-- At the end of every path a composition has the composition of what the value has there.
The induction is on the path. -/
theorem branchAt?_of_compose {tree : Tree String} (path : List Nat)
    (composed : (standard.withFormat format).compose value = .ok tree) :
    (tree.branchAt? path).map .ok =
      (value.itemAt? path).map (standard.withFormat format).compose := by
  induction path generalizing value tree with
  | nil => rw [Tree.branchAt?, TypedValue.itemAt?, Option.map_some, Option.map_some, composed]
  | cons index path inductionHypothesis =>
      have here := congrArg (·[index]?) (map_items_of_compose format composed)
      simp only [List.getElem?_map] at here
      rw [Tree.branchAt?, TypedValue.itemAt?]
      cases item : value.items[index]? with
      | none =>
          rw [item, Option.map_none, eq_comm, Option.map_eq_none_iff] at here
          rw [here]
          rfl
      | some part =>
          rw [item, Option.map_some, eq_comm, Option.map_eq_some_iff] at here
          obtain ⟨branch, found, composedThere⟩ := here
          rw [found]
          exact inductionHypothesis composedThere.symm

theorem exists_branch_of_item {tree : Tree String} {path : List Nat} {item : TypedValue}
    (found : value.itemAt? path = some item)
    (composed : (standard.withFormat format).compose value = .ok tree) :
    ∃ branch, tree.branchAt? path = some branch ∧
      (standard.withFormat format).compose item = .ok branch := by
  have here := branchAt?_of_compose format path composed
  rw [found, Option.map_some, Option.map_eq_some_iff] at here
  obtain ⟨branch, atPath, same⟩ := here
  exact ⟨branch, atPath, same.symm⟩

theorem branchAt?_of_no_item {tree : Tree String} {path : List Nat}
    (missing : value.itemAt? path = none)
    (composed : (standard.withFormat format).compose value = .ok tree) :
    tree.branchAt? path = none := by
  have here := branchAt?_of_compose format path composed
  rwa [missing, Option.map_none, Option.map_eq_none_iff] at here

end Usual

/-! ## One composition -/

/-- What a composition shows of its value: a list node for a list, with an empty node value
and the composition of each item in order, a leaf for everything else, the two sentinels, and
the same paths as the value. -/
structure Shows (dialect : Dialect) (value : TypedValue) (tree : Tree String) : Prop where
  isList_iff :
    tree.isList = true ↔ value.declared ≠ .void ∧ ∃ items, value.value = .list items
  list {items : List TypedValue} : value.declared ≠ .void → value.value = .list items →
    ∃ branches, tree = .node "" branches ∧ items.map dialect.compose = branches.map .ok
  void : value.declared = .void → tree = .text "/__VOID__/"
  null : value.declared ≠ .void → value.value = .null → tree = .text "null"
  path (path : List Nat) :
    (tree.branchAt? path).map .ok = (value.itemAt? path).map dialect.compose

theorem exists_shows (format : NumberFormat) (value : TypedValue) :
    ∃ tree, (standard.withFormat format).compose value = .ok tree ∧
      Shows (standard.withFormat format) value tree := by
  by_cases listed : value.Listed
  · obtain ⟨typed, items, content⟩ := listed
    obtain ⟨branches, composed, each⟩ := exists_compose_list format typed content
    refine ⟨.list branches, composed, ⟨?_, ?_, ?_, ?_, ?_⟩⟩
    · exact iff_of_true rfl ⟨typed, items, content⟩
    · intro others _ otherContent
      rw [content] at otherContent
      cases otherContent
      exact ⟨branches, rfl, each⟩
    · exact fun isVoid => absurd isVoid typed
    · intro _ isNull
      rw [content] at isNull
      contradiction
    · exact fun path => branchAt?_of_compose format path composed
  · have composed := compose_of_not_listed format listed
    refine ⟨_, composed, ⟨?_, ?_, ?_, ?_, ?_⟩⟩
    · exact iff_of_false nofun listed
    · exact fun typed content => absurd ⟨typed, _, content⟩ listed
    · intro isVoid
      rw [leafText, if_pos isVoid]
      rfl
    · intro typed isNull
      rw [leafText, if_neg typed, isNull]
      rfl
    · exact fun path => branchAt?_of_compose format path composed

/-! ## Two formats -/

/-- Two compositions of a value have the same shape, and where they differ the value has a
float. -/
structure AgreeButFloats (value : TypedValue) (first second : Tree String) : Prop where
  shape (path : List Nat) :
    (first.branchAt? path).map Tree.isList = (second.branchAt? path).map Tree.isList
  texts (path : List Nat) : first.valueAt? path ≠ second.valueAt? path →
    ∃ item number, value.itemAt? path = some item ∧ item.value = .float number

section Formats

variable {first second : NumberFormat} {value : TypedValue} {firstTree secondTree : Tree String}

/-- Two compositions are both list nodes or both leaves, and differ in their own value only
for a float. -/
theorem roots_agree (composed : (standard.withFormat first).compose value = .ok firstTree)
    (alsoComposed : (standard.withFormat second).compose value = .ok secondTree) :
    firstTree.isList = secondTree.isList ∧
      (firstTree.value ≠ secondTree.value → ∃ number, value.value = .float number) := by
  by_cases listed : value.Listed
  · obtain ⟨typed, items, content⟩ := listed
    obtain ⟨branches, inFirst, _⟩ := exists_compose_list first typed content
    obtain ⟨otherBranches, inSecond, _⟩ := exists_compose_list second typed content
    rw [composed] at inFirst
    rw [alsoComposed] at inSecond
    cases inFirst
    cases inSecond
    exact ⟨rfl, fun different => absurd rfl different⟩
  · rw [compose_of_not_listed first listed] at composed
    rw [compose_of_not_listed second listed] at alsoComposed
    cases composed
    cases alsoComposed
    refine ⟨rfl, fun different => Classical.byContradiction fun notFloat => different ?_⟩
    exact leafText_congr first second listed fun number content => notFloat ⟨number, content⟩

theorem agreeButFloats (composed : (standard.withFormat first).compose value = .ok firstTree)
    (alsoComposed : (standard.withFormat second).compose value = .ok secondTree) :
    AgreeButFloats value firstTree secondTree := by
  constructor
  · intro path
    cases found : value.itemAt? path with
    | none =>
        rw [branchAt?_of_no_item first found composed,
          branchAt?_of_no_item second found alsoComposed]
    | some item =>
        obtain ⟨branch, atFirst, here⟩ := exists_branch_of_item first found composed
        obtain ⟨otherBranch, atSecond, there⟩ := exists_branch_of_item second found alsoComposed
        rw [atFirst, atSecond, Option.map_some, Option.map_some, (roots_agree here there).1]
  · intro path different
    cases found : value.itemAt? path with
    | none =>
        rw [Tree.valueAt?, Tree.valueAt?, branchAt?_of_no_item first found composed,
          branchAt?_of_no_item second found alsoComposed] at different
        contradiction
    | some item =>
        obtain ⟨branch, atFirst, here⟩ := exists_branch_of_item first found composed
        obtain ⟨otherBranch, atSecond, there⟩ := exists_branch_of_item second found alsoComposed
        rw [Tree.valueAt?, Tree.valueAt?, atFirst, atSecond, Option.map_some, Option.map_some,
          ne_eq, Option.some.injEq] at different
        obtain ⟨number, isFloat⟩ := (roots_agree here there).2 different
        exact ⟨item, number, rfl, isFloat⟩

/-- A value without floats is composed in the same way in every format. -/
theorem compose_of_floatFree (first second : NumberFormat) (free : value.FloatFree) :
    (standard.withFormat first).compose value = (standard.withFormat second).compose value := by
  induction free with
  | @intro value notFloat _ inductionHypothesis =>
      by_cases listed : value.Listed
      · obtain ⟨typed, items, content⟩ := listed
        rw [compose_of_list first typed content, compose_of_list second typed content,
          composeItems_congr (inductionHypothesis items content)]
      · rw [compose_of_not_listed first listed, compose_of_not_listed second listed,
          leafText_congr first second listed notFloat]

end Formats

/-- Every value is composed in every format, as a tree of its shape. In two formats the trees
are the same when the value holds no float, and otherwise differ in the texts of floats
only. -/
theorem compose_shape (value : TypedValue) :
    (∀ format, ∃ tree, (standard.withFormat format).compose value = .ok tree ∧
      Shows (standard.withFormat format) value tree) ∧
    ∀ first second, ∃ firstTree secondTree,
      (standard.withFormat first).compose value = .ok firstTree ∧
      (standard.withFormat second).compose value = .ok secondTree ∧
      (value.FloatFree → firstTree = secondTree) ∧
      AgreeButFloats value firstTree secondTree := by
  refine ⟨fun format => exists_shows format value, fun first second => ?_⟩
  obtain ⟨firstTree, composed⟩ := exists_compose first value
  obtain ⟨secondTree, alsoComposed⟩ := exists_compose second value
  refine ⟨firstTree, secondTree, composed, alsoComposed, ?_, agreeButFloats composed alsoComposed⟩
  intro free
  have same := compose_of_floatFree first second free
  rw [composed, alsoComposed] at same
  exact Except.ok.inj same

end Dialect

end ListInvocation
