import ListInvocation.Proofs.Dialect.Relation
import ListInvocation.Platform

/-!
Contract: the meaning of an expected tree to the usual chain, outside ranges.

A relation of a number to an integer of 64 bits is judged on the integers, a pattern on the
composed text, and any other tree by equality with the composed result.

Owns: the expressions that this meaning leaves out, those that it knows, the verdict of each
rule on them, and the judgement of the whole chain.

Does not own: ranges, and bounds that are compared as floats.
-/

namespace ListInvocation

open ListInvocation.Decimal

namespace Comparison

/-! ## Expressions -/

/-- An expected tree is an expression for floats or ranges: a range for an integer, or a
relation of a number to a bound that has a fraction or does not fit 64 bits. -/
inductive Beyond (actual : TypedValue) : Tree String → Prop where
  | range {text : String} {lowest highest : Int} : actual.declared = .int →
      SpellsRange text.toList lowest highest → Beyond actual (.text text)
  | unfit {text : String} {relation : Relation} {digits : List Char} {bound : Int} :
      actual.declared.isNumeric = true →
      SpellsRelation (Text.trim text.toList) relation digits → SpellsInteger digits bound →
      ¬ FitsInt64 bound → Beyond actual (.text text)
  | fraction {text : String} {relation : Relation} {number : List Char} :
      actual.declared.isNumeric = true →
      SpellsRelation (Text.trim text.toList) relation number → SpellsFraction number →
      Beyond actual (.text text)

/-- An expected tree asks how a number stands to an integer of 64 bits. -/
inductive AsksRelation (actual : TypedValue) : Tree String → Relation → Int → Prop where
  | leaf {text : String} {relation : Relation} {digits : List Char} {bound : Int} :
      actual.declared.isNumeric = true →
      SpellsRelation (Text.trim text.toList) relation digits → SpellsInteger digits bound →
      FitsInt64 bound → AsksRelation actual (.text text) relation bound

/-- An expected tree asks for a pattern: one that compiles, between two slashes. -/
inductive AsksPattern [Pattern.Library] : Tree String → Pattern → Prop where
  | leaf {source : String} {pattern : Pattern} : source ≠ "" →
      Pattern.Library.compile source = .ok pattern →
      AsksPattern (.text ("/" ++ source ++ "/")) pattern

/-- What a verdict says of a value, its composition and the expected tree. -/
structure Judged [Pattern.Library] (actual : TypedValue) (composed expected : Tree String)
    (verdict : Bool) :
    Prop where
  relation {relation : Relation} {bound : Int} :
    AsksRelation actual expected relation bound →
    (verdict = true ↔
      ∃ number, actual.value = .int number ∧ relation.Relates number.toInt bound)
  pattern {pattern : Pattern} {text : String} :
    (∀ relation bound, ¬ AsksRelation actual expected relation bound) →
    AsksPattern expected pattern → composed = .text text →
    verdict = pattern.isMatch text
  exact :
    (∀ relation bound, ¬ AsksRelation actual expected relation bound) →
    (∀ pattern text, ¬ (AsksPattern expected pattern ∧ composed = .text text)) →
    (verdict = true ↔ composed = expected)

/-! ## Rules -/

section Rules

variable {composer : Composer} {actual : TypedValue} {composed expected : Tree String}

theorem Verdict.ofBool_inj {first second : Bool} :
    Verdict.ofBool first = .ofBool second ↔ first = second := by
  cases first <;> cases second <;> simp [Verdict.ofBool]

theorem judge_range_of_not_beyond (known : ¬ Beyond actual expected) :
    range.judge composer actual expected = .ok .notApplicable := by
  cases expected with
  | node value branches => simp [range, Tree.isList]
  | leaf text =>
      by_cases integer : actual.declared.isInteger = true
      · cases read : readRange? text.toList with
        | none => simp [range, Tree.isList, integer, read]
        | some bounds =>
            obtain ⟨lowest, highest, spells⟩ := spells_of_readRange? read
            have declared : actual.declared = .int := by
              cases shape : actual.declared <;> simp_all [ValueType.isInteger]
            exact absurd (.range declared spells) known
      · simp [range, integer]

/-- The order of a value and an integer of 64 bits; only integers have one. -/
theorem holds_orderAgainst? {relation : Relation} {digits : List Char} {bound : Int}
    (notFloat : ∀ number, actual.value ≠ .float number) (spells : SpellsInteger digits bound)
    (fits : FitsInt64 bound) :
    (orderAgainst? actual.value digits).any relation.holds = true ↔
      ∃ number, actual.value = .int number ∧ relation.Relates number.toInt bound := by
  have read : readInt64? digits = some (Int64.ofInt bound) := by
    rw [readInt64?, spells.readInteger?]
    exact toInt64?_of_fits fits
  cases shape : actual.value with
  | int number =>
      have same := relation.holds_compare number (Int64.ofInt bound)
      rw [toInt_ofInt_of_fits fits] at same
      simpa [orderAgainst?, read] using same
  | float number => exact absurd shape (notFloat number)
  | _ => simp [orderAgainst?, Value.asFloat?]

theorem judge_relational_of_asks {relation : Relation} {bound : Int}
    (notFloat : ∀ number, actual.value ≠ .float number)
    (asks : AsksRelation actual expected relation bound) :
    ∃ verdict, relational.judge composer actual expected = .ok (.ofBool verdict) ∧
      (verdict = true ↔
        ∃ number, actual.value = .int number ∧ relation.Relates number.toInt bound) := by
  obtain ⟨numeric, spelled, spells, fits⟩ := asks
  refine ⟨_, ?_, holds_orderAgainst? notFloat spells fits⟩
  have read := readRelation?_eq_some_iff.mpr ⟨spelled, isBound_iff.mpr (.inl ⟨_, spells⟩)⟩
  simp only [relational, numeric, Tree.isList, Tree.isLeaf_leaf, Tree.value_leaf, read]
  cases orderAgainst? actual.value _ <;> rfl

theorem judge_relational_of_not (known : ¬ Beyond actual expected)
    (unasked : ∀ relation bound, ¬ AsksRelation actual expected relation bound) :
    relational.judge composer actual expected = .ok .notApplicable := by
  cases expected with
  | node value branches => simp [relational, Tree.isList]
  | leaf text =>
      by_cases numeric : actual.declared.isNumeric = true
      · cases read : readRelation? (Text.trim text.toList) with
        | none => simp [relational, Tree.isList, numeric, read]
        | some parts =>
            -- Whatever number is read, the tree is one of the expressions that are excluded.
            obtain ⟨spelled, isNumber⟩ := readRelation?_eq_some_iff.mp read
            rcases isBound_iff.mp isNumber with ⟨bound, spells⟩ | fraction
            · by_cases fits : FitsInt64 bound
              · exact absurd (.leaf numeric spelled spells fits) (unasked _ bound)
              · exact absurd (.unfit numeric spelled spells fits) known
            · exact absurd (.fraction numeric spelled fraction) known
      · simp [relational, numeric]

theorem readDelimited?_slashes {source : String} (nonempty : source ≠ "") :
    readDelimited? ("/" ++ source ++ "/").toList = some source := by
  apply readDelimited?_eq_some_iff.mpr
  refine ⟨nonempty, ?_⟩
  rw [String.toList_append, String.toList_append]
  rfl

theorem judge_exact (composes : composer actual = .ok composed) :
    exact.judge composer actual expected = .ok (.ofBool (composed == expected)) := by
  simp only [exact, composes, Except.map]

variable [Pattern.Library]

theorem judge_pattern_of_asks {pattern : Pattern} {text : String}
    (composes : composer actual = .ok (.text text)) (asks : AsksPattern expected pattern) :
    Comparison.pattern.judge composer actual expected =
      .ok (.ofBool (pattern.isMatch text)) := by
  obtain ⟨nonempty, compiles⟩ := asks
  simp only [Comparison.pattern, Tree.isList, Tree.isLeaf_leaf, Tree.value_leaf,
    readDelimited?_slashes nonempty, compiles, composes]
  rfl

theorem judge_pattern_of_not (composes : composer actual = .ok composed)
    (unasked : ∀ pattern text, ¬ (AsksPattern expected pattern ∧ composed = .text text)) :
    Comparison.pattern.judge composer actual expected = .ok .notApplicable := by
  cases expected with
  | node value branches => simp [Comparison.pattern, Tree.isList]
  | leaf text =>
      cases read : readDelimited? text.toList with
      | none => simp [Comparison.pattern, Tree.isList, read]
      | some source =>
          obtain ⟨nonempty, shape⟩ := readDelimited?_eq_some_iff.mp read
          have slashes : text = "/" ++ source ++ "/" := by
            apply String.toList_inj.mp
            rw [shape, String.toList_append, String.toList_append]
            rfl
          cases compiles : Pattern.Library.compile source with
          | error fault => simp [Comparison.pattern, Tree.isList, read, compiles]
          | ok pattern =>
              cases composed with
              | leaf actualText =>
                  have asks : AsksPattern (.leaf text) pattern :=
                    slashes ▸ .leaf nonempty compiles
                  exact absurd ⟨asks, rfl⟩ (unasked pattern actualText)
              | node value branches =>
                  simp [Comparison.pattern, Tree.isList, read, compiles, composes]

end Rules

end Comparison

/-! ## The judgement of the chain -/

namespace Dialect

open Comparison

/-- The judgement of a chain stops at the first rule that applies. -/
theorem judgeBy_cons_of_notApplicable {dialect : Dialect} {actual : TypedValue}
    {expected : Tree String} {rule : CompareRule} (rules : List CompareRule)
    (declines : rule.judge dialect.compose actual expected = .ok .notApplicable) :
    dialect.judgeBy actual expected (rule :: rules) = dialect.judgeBy actual expected rules := by
  rw [judgeBy, declines]
  rfl

theorem judgeBy_cons_of_ofBool {dialect : Dialect} {actual : TypedValue}
    {expected : Tree String} {rule : CompareRule} {verdict : Bool} (rules : List CompareRule)
    (applies : rule.judge dialect.compose actual expected = .ok (.ofBool verdict)) :
    dialect.judgeBy actual expected (rule :: rules) = .ok verdict := by
  rw [judgeBy, applies]
  cases verdict <;> rfl

variable [Pattern.Library] (format : NumberFormat) {actual : TypedValue}

/-- The rules are asked in their order, and one of the last three answers. -/
theorem exists_judged (notFloat : ∀ number, actual.value ≠ .float number)
    {composed expected : Tree String}
    (composes : (standard.withFormat format).compose actual = .ok composed)
    (known : ¬ Beyond actual expected) :
    ∃ verdict, (standard.withFormat format).compare actual expected = .ok verdict ∧
      Judged actual composed expected verdict := by
  have chain : (standard.withFormat format).compare actual expected =
      (standard.withFormat format).judgeBy actual expected [relational, pattern, exact] :=
    judgeBy_cons_of_notApplicable _ (judge_range_of_not_beyond known)
  rw [chain]
  by_cases related : ∃ relation bound, AsksRelation actual expected relation bound
  · obtain ⟨relation, bound, asks⟩ := related
    obtain ⟨verdict, judged, holds⟩ := judge_relational_of_asks notFloat asks
    refine ⟨verdict, judgeBy_cons_of_ofBool _ judged, ⟨?_, ?_, ?_⟩⟩
    · -- A text can be read in one way only, so that both readings have the same verdict.
      intro other otherBound otherAsks
      obtain ⟨otherVerdict, otherJudged, otherHolds⟩ :=
        judge_relational_of_asks notFloat otherAsks
      rw [judged] at otherJudged
      rw [Verdict.ofBool_inj.mp (Except.ok.inj otherJudged)]
      exact otherHolds
    · exact fun unasked => absurd asks (unasked relation bound)
    · exact fun unasked => absurd asks (unasked relation bound)
  · have unasked : ∀ relation bound, ¬ AsksRelation actual expected relation bound :=
      fun relation bound asks => related ⟨relation, bound, asks⟩
    rw [judgeBy_cons_of_notApplicable _ (judge_relational_of_not known unasked)]
    by_cases searched : ∃ pattern text, AsksPattern expected pattern ∧ composed = .text text
    · obtain ⟨pattern, text, asks, isLeaf⟩ := searched
      have judged := judge_pattern_of_asks (isLeaf ▸ composes) asks
      refine ⟨_, judgeBy_cons_of_ofBool _ judged, ⟨?_, ?_, ?_⟩⟩
      · exact fun otherAsks => absurd otherAsks (unasked _ _)
      · intro other otherText _ otherAsks otherLeaf
        have otherJudged := judge_pattern_of_asks (otherLeaf ▸ composes) otherAsks
        rw [judged] at otherJudged
        exact Verdict.ofBool_inj.mp (Except.ok.inj otherJudged)
      · exact fun _ unsearched => absurd ⟨asks, isLeaf⟩ (unsearched pattern text)
    · have unsearched : ∀ pattern text,
          ¬ (AsksPattern expected pattern ∧ composed = .text text) :=
        fun pattern text asks => searched ⟨pattern, text, asks⟩
      rw [judgeBy_cons_of_notApplicable _ (judge_pattern_of_not composes unsearched)]
      refine ⟨_, judgeBy_cons_of_ofBool _ (judge_exact composes), ⟨?_, ?_, ?_⟩⟩
      · exact fun otherAsks => absurd otherAsks (unasked _ _)
      · exact fun _ asks isLeaf => absurd ⟨asks, isLeaf⟩ (unsearched _ _)
      · exact fun _ _ => beq_iff_eq

/-- A value that is no float itself, whatever its lists hold, is composed and judged against
every expected tree within the grammar; where its composition is no expression at all, it is
judged equal to that. -/
theorem compare_judged (notFloat : ∀ number, actual.value ≠ .float number) :
    ∃ composed, (standard.withFormat format).compose actual = .ok composed ∧
      (∀ expected, ¬ Beyond actual expected →
        ∃ verdict, (standard.withFormat format).compare actual expected = .ok verdict ∧
          Judged actual composed expected verdict) ∧
      (¬ Beyond actual composed →
        (∀ relation bound, ¬ AsksRelation actual composed relation bound) →
        (∀ pattern, ¬ AsksPattern composed pattern) →
        (standard.withFormat format).compare actual composed = .ok true) := by
  obtain ⟨composed, composes⟩ := exists_compose format actual
  refine ⟨composed, composes, fun expected known => ?_, fun known unasked unsearched => ?_⟩
  · exact exists_judged format notFloat composes known
  · obtain ⟨verdict, compared, judged⟩ := exists_judged format notFloat composes known
    have equal : verdict = true ↔ composed = composed :=
      judged.exact unasked fun pattern _ both => unsearched pattern both.1
    rw [compared, equal.mpr rfl]

end Dialect

end ListInvocation

namespace ListInvocation.Dialect

open ListInvocation.Decimal
open Comparison

/-- Blanks around a relation and zeros in front of its bound play no part. -/
theorem compare_judged_spacedBound :
    (∀ number, (TypedValue.int (-7)).value ≠ .float number) ∧
      ¬ Beyond (.int (-7)) (.text " <=  -0007 ") ∧
      (standard.withFormat .invariant).compare (.int (-7)) (.text " <=  -0007 ") =
        .ok true := by
  have notFloat : ∀ number, (TypedValue.int (-7)).value ≠ .float number := nofun
  have read : readRelation? (Text.trim " <=  -0007 ".toList) =
      some (.lessOrEqual, "-0007".toList) := by decide
  have known : ¬ Beyond (.int (-7)) (.text " <=  -0007 ") := by
    intro beyond
    cases beyond with
    | range declared spells =>
        obtain ⟨low, high, _, _, parts⟩ := spells
        have point : '.' ∈ " <=  -0007 ".toList := by rw [parts]; simp
        exact absurd point (by decide)
    | unfit numeric spelled spells unfit =>
        have found := readRelation?_eq_some_iff.mpr ⟨spelled, isBound_iff.mpr (.inl ⟨_, spells⟩)⟩
        rw [read] at found
        cases found
        have value : some (-7) = some _ := spells.readInteger?
        exact unfit (Option.some.inj value ▸ by decide)
    | fraction numeric spelled fraction =>
        have found := readRelation?_eq_some_iff.mpr ⟨spelled, isBound_iff.mpr (.inr fraction)⟩
        rw [read] at found
        cases found
        obtain ⟨whole, value, digits, _, _, _, parts⟩ := fraction
        have point : '.' ∈ "-0007".toList := by rw [parts]; simp
        exact absurd point (by decide)
  obtain ⟨spelled, isNumber⟩ := readRelation?_eq_some_iff.mp read
  have digits : SpellsInteger "-0007".toList (-7) :=
    .negative (by decide) (List.all_eq_true.mp rfl)
  have asks : AsksRelation (.int (-7)) (.text " <=  -0007 ") .lessOrEqual (-7) :=
    .leaf rfl spelled digits (by decide)
  obtain ⟨composed, _, judges, _⟩ := compare_judged .invariant notFloat
  obtain ⟨verdict, compared, judged⟩ := judges _ known
  have holds : verdict = true := (judged.relation asks).mpr ⟨-7, rfl, by decide⟩
  exact ⟨notFloat, known, holds ▸ compared⟩

end ListInvocation.Dialect
