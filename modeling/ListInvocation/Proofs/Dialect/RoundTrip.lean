import ListInvocation.Proofs.Decimal.Integer
import ListInvocation.Proofs.Dialect.Composition
import ListInvocation.Proofs.Dialect.Parsing

/-!
Contract: a composed value is parsed for its own type as the same value.

Owns: the values of the types of truth values, integers, texts and lists of these, and
their round trip through the usual chains.

Does not own: floats, whose decimal separator the reader may not know, and absent values,
which are composed as a text.
-/

namespace ListInvocation

/-- A present value of a type that is built from truth values, integers, texts and lists.
Every item of a list is declared with the element type of the list. -/
inductive TypedValue.Plain : ValueType → TypedValue → Prop where
  | bool (truth : Bool) : Plain .bool (.bool truth)
  | int (number : Int64) : Plain .int (.int number)
  | text (text : String) : Plain .text (.text text)
  | list {element : ValueType} {items : List TypedValue} :
      (∀ item ∈ items, Plain element item) → Plain (.list element) (.list element items)

/-- Items that come back one by one come back as a list. -/
theorem parseItems_composeItems {composer : Composer} {parser : Parser}
    {element : ValueType} {items : List TypedValue}
    (each : ∀ item ∈ items, ∃ tree,
      composer item = .ok tree ∧ parser element tree = .ok item) :
    ∃ trees, Composition.composeItems composer items = .ok trees ∧
      Parsing.parseItems parser element trees = .ok items := by
  induction items with
  | nil => exact ⟨[], rfl, rfl⟩
  | cons item items inductionHypothesis =>
      obtain ⟨tree, composed, parsed⟩ := each item List.mem_cons_self
      obtain ⟨trees, composedAll, parsedAll⟩ := inductionHypothesis fun other member =>
        each other (List.mem_cons_of_mem item member)
      refine ⟨tree :: trees, ?_, ?_⟩
      · unfold Composition.composeItems
        rw [composed, composedAll]
        rfl
      · unfold Parsing.parseItems
        rw [parsed, parsedAll]
        rfl

variable [Pattern.Library]

namespace Dialect

variable (format : NumberFormat)

theorem parse_compose_bool (truth : Bool) :
    (standard.withFormat format).parse .bool (.text (if truth then "true" else "false")) =
      .ok (.bool truth) := by
  have read : Parsing.readBool?
      (Text.trim (if truth then "true" else "false").toList) = some truth := by
    cases truth <;> cbv
  rw [parse_bool, read]
  rfl

theorem parse_compose_int (number : Int64) :
    (standard.withFormat format).parse .int (.text (format.renderInt number)) =
      .ok (.int number) := by
  have clean := (Decimal.spellsInteger_renderInt format number).clean
  rw [parse_int, Text.trim_of_clean clean, Decimal.readInt64?_renderInt]
  rfl

/-- A plain value is composed, in any number format, as a tree that is parsed as the same
value. The induction follows the type: a list is one node, so an empty list differs from
an empty text, and no text of an item is split or trimmed. -/
theorem parse_compose {type : ValueType} {value : TypedValue} (plain : value.Plain type) :
    ∃ tree, (standard.withFormat format).compose value = .ok tree ∧
      (standard.withFormat format).parse type tree = .ok value := by
  induction plain with
  | bool truth => exact ⟨_, compose_bool format truth, parse_compose_bool format truth⟩
  | int number => exact ⟨_, compose_int format number, parse_compose_int format number⟩
  | text text => exact ⟨_, compose_text format text, parse_text format text⟩
  | @list element items _ inductionHypothesis =>
      obtain ⟨trees, composed, parsed⟩ := parseItems_composeItems inductionHypothesis
      refine ⟨.list trees, ?_, ?_⟩
      · rw [compose_list, composed]
        rfl
      · have elements : Parsing.elementTrees (.list trees) = trees := rfl
        rw [parse_list, elements, parsed]
        rfl

end Dialect

end ListInvocation
