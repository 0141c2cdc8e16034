import ListInvocation.Proofs.Decimal.Integer
import ListInvocation.Proofs.Dialect.Composition
import ListInvocation.Proofs.Text.Run
import ListInvocation.Platform

/-!
Contract: the judgement of integers against ranges.

A range is spelled by two integers in any number of digits. The rule of ranges takes bounds
of 64 bits only; it passes on any other, and so do the rules behind it up to the last one,
which compares texts.

Owns: the texts that spell a range, what each usual rule makes of them, and the judgement of
the whole chain.

Does not own: relations to a single bound.
-/

namespace ListInvocation

open ListInvocation.Decimal

namespace Comparison

/-! ## Spelled ranges -/

/-- A text spells a range: two integers with two points between them. -/
def SpellsRange (text : List Char) (lowest highest : Int) : Prop :=
  ∃ low high, SpellsInteger low lowest ∧ SpellsInteger high highest ∧
    text = low ++ '.' :: '.' :: high

theorem takeInteger?_of_ne_minus {first : Char} (notMinus : first ≠ '-') (rest : List Char) :
    takeInteger? (first :: rest) =
      if ((first :: rest).takeWhile isDigit).isEmpty then none
      else some ((first :: rest).takeWhile isDigit, (first :: rest).dropWhile isDigit) := by
  unfold takeInteger?
  split
  next sign unsigned shape =>
    split at shape
    next minus => exact absurd (List.cons.inj minus).1 notMinus
    next =>
      cases shape
      rfl

/-- The first integer of a text is split off where no digit follows. -/
theorem takeInteger?_append {text : List Char} {number : Int}
    (spells : SpellsInteger text number) {rest : List Char}
    (ended : ∀ character ∈ rest.head?, isDigit character = false) :
    takeInteger? (text ++ rest) = some (text, rest) := by
  cases spells with
  | plain nonempty digits =>
      obtain ⟨digit, run, shape⟩ := List.exists_cons_of_ne_nil nonempty
      have notMinus : digit ≠ '-' :=
        ne_of_isDigit (digits digit (shape ▸ List.mem_cons_self)) rfl
      have unsigned := takeInteger?_of_ne_minus notMinus (run ++ rest)
      rw [← List.cons_append, ← shape, Text.takeWhile_run digits ended,
        Text.dropWhile_run digits ended,
        if_neg (fun empty => nonempty (List.isEmpty_iff.mp empty))] at unsigned
      exact unsigned
  | @negative run nonempty digits =>
      simp only [takeInteger?, List.cons_append, Text.takeWhile_run digits ended,
        Text.dropWhile_run digits ended, List.isEmpty_eq_false_iff.mpr nonempty]
      rfl

section Rules

variable {text : List Char} {lowest highest : Int}

/-- The bounds of a range are read where both fit 64 bits. -/
theorem SpellsRange.readRange?_eq (spells : SpellsRange text lowest highest) :
    readRange? text =
      if FitsInt64 lowest ∧ FitsInt64 highest then
        some (Int64.ofInt lowest, Int64.ofInt highest)
      else none := by
  obtain ⟨low, high, lowSpelled, highSpelled, parts⟩ := spells
  have lowTaken : takeInteger? (low ++ '.' :: '.' :: high) = some (low, '.' :: '.' :: high) :=
    takeInteger?_append lowSpelled fun _ point => Option.some.inj point ▸ rfl
  have highTaken : takeInteger? (high ++ []) = some (high, []) :=
    takeInteger?_append highSpelled nofun
  rw [List.append_nil] at highTaken
  have read : readRange? text = do
      let lower ← toInt64? lowest
      let upper ← toInt64? highest
      return (lower, upper) := by
    simp only [readRange?, parts, lowTaken, highTaken, readInt64?, lowSpelled.readInteger?,
      highSpelled.readInteger?, Option.bind_eq_bind, Option.bind_some]
    rfl
  rw [read]
  by_cases lowFits : FitsInt64 lowest
  · rw [toInt64?_of_fits lowFits]
    by_cases highFits : FitsInt64 highest
    · rw [toInt64?_of_fits highFits, if_pos ⟨lowFits, highFits⟩]
      rfl
    · rw [toInt64?_of_not_fits highFits, if_neg fun both => highFits both.2]
      rfl
  · rw [toInt64?_of_not_fits lowFits, if_neg fun both => lowFits both.1]
    rfl

/-- A range begins with a minus or a digit. -/
theorem SpellsRange.exists_first (spells : SpellsRange text lowest highest) :
    ∃ first rest, text = first :: rest ∧ (first = '-' ∨ isDigit first = true) := by
  obtain ⟨low, high, lowSpelled, _, parts⟩ := spells
  obtain ⟨first, rest, shape, starts⟩ := lowSpelled.exists_first
  exact ⟨first, rest ++ '.' :: '.' :: high, by rw [parts, shape, List.cons_append], starts⟩

theorem SpellsRange.trim_eq (spells : SpellsRange text lowest highest) :
    Text.trim text = text := by
  obtain ⟨low, high, lowSpelled, highSpelled, parts⟩ := spells
  apply Text.trim_of_clean
  intro character member
  rw [parts] at member
  simp only [List.mem_append, List.mem_cons] at member
  rcases member with inLow | point | point | inHigh
  · exact lowSpelled.clean character inLow
  · rw [point]
    rfl
  · rw [point]
    rfl
  · exact highSpelled.clean character inHigh

/-- A range is no relation to a bound. -/
theorem SpellsRange.readRelation?_eq_none (spells : SpellsRange text lowest highest) :
    readRelation? (Text.trim text) = none := by
  obtain ⟨first, rest, shape, startsNumber⟩ := spells.exists_first
  have noSign : takeRelation? text = none := by
    have differs : ∀ sign, sign ≠ '-' → isDigit sign = false → first ≠ sign := by
      intro sign notMinus notDigit same
      rcases startsNumber with minus | digit
      · exact notMinus (same ▸ minus)
      · exact ne_of_isDigit digit notDigit same
    have notLess : first ≠ '<' := differs '<' (by decide) rfl
    have notGreater : first ≠ '>' := differs '>' (by decide) rfl
    have notDifferent : first ≠ '!' := differs '!' (by decide) rfl
    rw [shape]
    unfold takeRelation?
    split <;> simp_all
  rw [spells.trim_eq, readRelation?, noSign]
  rfl

/-- A range is no pattern. -/
theorem SpellsRange.readDelimited?_eq_none (spells : SpellsRange text lowest highest) :
    readDelimited? text = none := by
  obtain ⟨first, rest, shape, startsNumber⟩ := spells.exists_first
  have notSlash : first ≠ '/' := by
    intro same
    rw [same] at startsNumber
    rcases startsNumber with minus | digit <;> contradiction
  rw [shape]
  unfold readDelimited?
  split
  next shape => exact absurd (List.cons.inj shape).1 notSlash
  next => rfl

/-- No written integer is a range. -/
theorem SpellsRange.ne_renderInt (spells : SpellsRange text lowest highest)
    (format : NumberFormat) (number : Int64) : (format.renderInt number).toList ≠ text := by
  intro same
  obtain ⟨low, high, _, _, parts⟩ := spells
  have point : '.' ∈ (format.renderInt number).toList := by
    rw [same, parts]
    simp
  rcases (spellsInteger_renderInt format number).characters '.' point with minus | digit <;>
    contradiction

end Rules

end Comparison

/-! ## The judgement of the chain -/

namespace Dialect

open Comparison

variable (format : NumberFormat) (number : Int64) {expected : String} {lowest highest : Int}

theorem judge_range (composer : Composer)
    (spells : SpellsRange expected.toList lowest highest) :
    range.judge composer (.int number) (.text expected) =
      .ok (if FitsInt64 lowest ∧ FitsInt64 highest then
          .ofBool (decide (lowest ≤ number.toInt ∧ number.toInt ≤ highest))
        else .notApplicable) := by
  have read := spells.readRange?_eq
  by_cases fits : FitsInt64 lowest ∧ FitsInt64 highest
  · rw [if_pos fits] at read
    simp only [range, Tree.isList, Tree.isLeaf_leaf, Tree.value_leaf, read, if_pos fits,
      Int64.le_iff_toInt_le, toInt_ofInt_of_fits fits.1, toInt_ofInt_of_fits fits.2,
      Bool.decide_and]
    rfl
  · rw [if_neg fits] at read
    simp only [range, Tree.isList, Tree.isLeaf_leaf, Tree.value_leaf, read, if_neg fits]
    rfl

theorem judge_relational_of_range (composer : Composer)
    (spells : SpellsRange expected.toList lowest highest) :
    relational.judge composer (.int number) (.text expected) = .ok .notApplicable := by
  simp only [relational, Tree.isList, Tree.isLeaf_leaf, Tree.value_leaf,
    spells.readRelation?_eq_none]
  rfl

variable [Pattern.Library]

theorem judge_pattern_of_range (composer : Composer)
    (spells : SpellsRange expected.toList lowest highest) :
    pattern.judge composer (.int number) (.text expected) = .ok .notApplicable := by
  simp only [pattern, Tree.isList, Tree.isLeaf_leaf, Tree.value_leaf,
    spells.readDelimited?_eq_none]
  rfl

theorem judge_exact_of_range (spells : SpellsRange expected.toList lowest highest) :
    exact.judge (standard.withFormat format).compose (.int number) (.text expected) =
      .ok .mismatched := by
  have differ : ¬ Tree.text (format.renderInt number) = .text expected := by
    intro same
    exact spells.ne_renderInt format number (congrArg String.toList (Tree.leaf.inj same))
  simp only [exact, compose_int, Except.map, beq_eq_false_iff_ne.mpr differ]
  rfl

/-- An integer is judged against a range as the integers say where both bounds fit 64 bits, in
any number of digits, signs and leading zeros; no integer is in any other range. -/
theorem compare_range (spells : SpellsRange expected.toList lowest highest) :
    (standard.withFormat format).compare (.int number) (.text expected) =
      .ok (decide (FitsInt64 lowest ∧ FitsInt64 highest ∧
        lowest ≤ number.toInt ∧ number.toInt ≤ highest)) := by
  have chain : (standard.withFormat format).compare (.int number) (.text expected) =
      (standard.withFormat format).judgeBy (.int number) (.text expected)
        [range, relational, pattern, exact] := rfl
  rw [chain]
  simp only [judgeBy, judge_range number _ spells, judge_relational_of_range number _ spells,
    judge_pattern_of_range number _ spells, judge_exact_of_range format number spells, bind,
    Except.bind]
  by_cases fits : FitsInt64 lowest ∧ FitsInt64 highest
  · rw [if_pos fits]
    by_cases inside : lowest ≤ number.toInt ∧ number.toInt ≤ highest
    · rw [decide_eq_true inside, decide_eq_true ⟨fits.1, fits.2, inside⟩]
      rfl
    · rw [decide_eq_false inside, decide_eq_false fun all => inside all.2.2]
      rfl
  · rw [if_neg fits, decide_eq_false fun all => fits ⟨all.1, all.2.1⟩]
    rfl

end Dialect

end ListInvocation

namespace ListInvocation.Dialect

open ListInvocation.Decimal
open Comparison

/-- Signs and leading zeros play no part, and neither does the sign of a zero. -/
theorem compare_range_leadingZeros :
    SpellsRange "-0007..-0".toList (-7) 0 ∧
      (standard.withFormat .invariant).compare (.int (-7)) (.text "-0007..-0") = .ok true ∧
      (standard.withFormat .invariant).compare (.int 1) (.text "-0007..-0") = .ok false := by
  have low : SpellsInteger ('-' :: "0007".toList) (-7) :=
    .negative (by decide) (List.all_eq_true.mp rfl)
  have high : SpellsInteger ['-', '0'] 0 := .negative (by decide) (List.all_eq_true.mp rfl)
  have spells : SpellsRange "-0007..-0".toList (-7) 0 := ⟨_, _, low, high, rfl⟩
  exact ⟨spells, compare_range .invariant (-7) spells, compare_range .invariant 1 spells⟩

/-- An integer between the bounds of a range is not in it when a bound does not fit 64 bits. -/
theorem compare_unfitRange :
    SpellsRange "0..9223372036854775808".toList 0 9223372036854775808 ∧
      0 ≤ (5 : Int64).toInt ∧ (5 : Int64).toInt ≤ 9223372036854775808 ∧
      standard.compare (.int 5) (.text "0..9223372036854775808") = .ok false := by
  have low : SpellsInteger ['0'] 0 := .plain (by decide) (List.all_eq_true.mp rfl)
  have high : SpellsInteger "9223372036854775808".toList 9223372036854775808 :=
    .plain (by decide) (List.all_eq_true.mp rfl)
  have spells : SpellsRange "0..9223372036854775808".toList 0 9223372036854775808 :=
    ⟨_, _, low, high, rfl⟩
  exact ⟨spells, by decide, by decide, by with_unfolding_all rfl⟩

end ListInvocation.Dialect
