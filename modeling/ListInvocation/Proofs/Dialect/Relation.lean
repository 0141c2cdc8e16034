import ListInvocation.Proofs.Dialect.Range

/-!
Contract: the texts that spell a relation to a bound, or a pattern between slashes.

A relation is spelled by its sign and a number, with blanks allowed around both. The number
is an integer in any number of digits, or it has a fraction.

Owns: these texts, what the readers of the three grammars take, and the judgement of two
integers of 64 bits by a relation.

Does not own: the rules, or floats.
-/

namespace ListInvocation

open ListInvocation.Decimal

namespace Comparison

/-! ## Relations of integers -/

/-- How a number stands to a bound. -/
def Relation.Relates : Relation → (number bound : Int) → Prop
  | .less, number, bound => number < bound
  | .lessOrEqual, number, bound => number ≤ bound
  | .greater, number, bound => bound < number
  | .greaterOrEqual, number, bound => bound ≤ number
  | .different, number, bound => number ≠ bound

instance (relation : Relation) (number bound : Int) :
    Decidable (relation.Relates number bound) := by
  cases relation <;> unfold Relation.Relates <;> infer_instance

/-- Words of 64 bits are in the order of the integers that they stand for. -/
theorem Relation.holds_compare (relation : Relation) (number bound : Int64) :
    relation.holds (compare number bound) = true ↔
      relation.Relates number.toInt bound.toInt := by
  cases order : compare number bound with
  | lt =>
      have below : number.toInt < bound.toInt :=
        Int64.lt_iff_toInt_lt.mp (Std.compare_eq_lt.mp order)
      cases relation <;> simp [Relation.holds, Relation.Relates] <;> omega
  | eq =>
      have same : number.toInt = bound.toInt :=
        congrArg Int64.toInt (Std.LawfulEqOrd.eq_of_compare order)
      cases relation <;> simp [Relation.holds, Relation.Relates] <;> omega
  | gt =>
      have above : bound.toInt < number.toInt :=
        Int64.lt_iff_toInt_lt.mp (Std.compare_eq_gt.mp order)
      cases relation <;> simp [Relation.holds, Relation.Relates] <;> omega

/-! ## Numbers -/

/-- A text spells a number with a fraction. -/
def SpellsFraction (text : List Char) : Prop :=
  ∃ whole value fraction, SpellsInteger whole value ∧ fraction ≠ [] ∧
    (∀ character ∈ fraction, isDigit character = true) ∧ text = whole ++ '.' :: fraction

/-- What is split off at the front of a text spells an integer. -/
theorem spells_of_takeInteger? {text number rest : List Char}
    (split : takeInteger? text = some (number, rest)) :
    (∃ value, SpellsInteger number value) ∧ text = number ++ rest := by
  have digitsOf : ∀ run : List Char, ∀ character ∈ run.takeWhile isDigit,
      isDigit character = true := fun run => List.all_eq_true.mp List.all_takeWhile
  cases text with
  | nil => contradiction
  | cons first tail =>
      by_cases minus : first = '-'
      · subst minus
        simp only [takeInteger?] at split
        split at split
        next => contradiction
        next nonempty =>
          cases split
          refine ⟨⟨_, .negative (mt List.isEmpty_iff.mpr nonempty) (digitsOf tail)⟩, ?_⟩
          simp [List.takeWhile_append_dropWhile]
      · rw [takeInteger?_of_ne_minus minus] at split
        split at split
        next => contradiction
        next nonempty =>
          cases split
          refine ⟨⟨_, .plain (mt List.isEmpty_iff.mpr nonempty) (digitsOf _)⟩, ?_⟩
          simp only [List.takeWhile_append_dropWhile]

/-- The bounds are integers and numbers with a fraction. -/
theorem isBound_iff {text : List Char} :
    isBound text = true ↔ (∃ value, SpellsInteger text value) ∨ SpellsFraction text := by
  constructor
  · intro bound
    unfold isBound at bound
    split at bound
    next => contradiction
    next number split =>
      obtain ⟨spells, shape⟩ := spells_of_takeInteger? split
      rw [List.append_nil] at shape
      exact .inl (shape ▸ spells)
    next number fraction split =>
      obtain ⟨⟨value, spells⟩, shape⟩ := spells_of_takeInteger? split
      simp only [Bool.and_eq_true, Bool.not_eq_true', List.isEmpty_eq_false_iff,
        List.all_eq_true] at bound
      exact .inr ⟨number, value, fraction, spells, bound.1, bound.2, shape⟩
    next => contradiction
  · rintro (⟨value, spells⟩ | ⟨whole, value, fraction, spells, nonempty, digits, shape⟩)
    · have taken : takeInteger? (text ++ []) = some (text, []) :=
        takeInteger?_append spells nofun
      rw [List.append_nil] at taken
      simp [isBound, taken]
    · have taken : takeInteger? text = some (whole, '.' :: fraction) :=
        shape ▸ takeInteger?_append spells fun _ point => Option.some.inj point ▸ rfl
      simp only [isBound, taken, List.isEmpty_eq_false_iff.mpr nonempty,
        List.all_eq_true.mpr digits]
      rfl

theorem exists_first_of_isBound {text : List Char} (bound : isBound text = true) :
    ∃ first rest, text = first :: rest ∧ (first = '-' ∨ isDigit first = true) := by
  rcases isBound_iff.mp bound with ⟨value, spells⟩ | ⟨whole, value, fraction, spells, _, _, shape⟩
  · exact spells.exists_first
  · obtain ⟨first, rest, parts, starts⟩ := spells.exists_first
    exact ⟨first, rest ++ '.' :: fraction, by rw [shape, parts, List.cons_append], starts⟩

/-! ## Ranges -/

theorem spells_of_readRange? {text : List Char} {low high : Int64}
    (read : readRange? text = some (low, high)) :
    ∃ lowest highest, SpellsRange text lowest highest := by
  simp only [readRange?, Option.bind_eq_bind, Option.bind_eq_some_iff] at read
  obtain ⟨⟨lower, between⟩, lowTaken, read⟩ := read
  obtain ⟨⟨lowest, lowSpelled⟩, parts⟩ := spells_of_takeInteger? lowTaken
  simp only at read
  split at read
  next rest =>
    obtain ⟨⟨upper, behind⟩, highTaken, read⟩ := Option.bind_eq_some_iff.mp read
    obtain ⟨⟨highest, highSpelled⟩, tail⟩ := spells_of_takeInteger? highTaken
    simp only at read
    split at read
    next ended =>
      rw [List.isEmpty_iff.mp ended, List.append_nil] at tail
      exact ⟨lowest, highest, lower, upper, lowSpelled, highSpelled, tail ▸ parts⟩
    next => contradiction
  next => contradiction

/-! ## Spelled relations -/

def Relation.sign : Relation → List Char
  | .less => ['<']
  | .lessOrEqual => ['<', '=']
  | .greater => ['>']
  | .greaterOrEqual => ['>', '=']
  | .different => ['!', '=']

/-- A text is a sign and a number, with blanks between them or none. -/
def SpellsRelation (text : List Char) (relation : Relation) (number : List Char) : Prop :=
  ∃ gap, Text.Blank gap ∧ text = relation.sign ++ gap ++ number

theorem sign_of_takeRelation? {text rest : List Char} {relation : Relation}
    (split : takeRelation? text = some (relation, rest)) : text = relation.sign ++ rest := by
  unfold takeRelation? at split
  split at split <;> cases split <;> rfl

/-- A sign is split off where no equals sign follows. -/
theorem takeRelation?_sign (relation : Relation) {rest : List Char}
    (ended : ∀ character ∈ rest.head?, character ≠ '=') :
    takeRelation? (relation.sign ++ rest) = some (relation, rest) := by
  cases rest with
  | nil => cases relation <;> rfl
  | cons character rest =>
      have notEquals : character ≠ '=' := ended character rfl
      cases relation <;> simp [Relation.sign, takeRelation?, notEquals]

/-- The reader of relations takes exactly the signs in front of a bound. -/
theorem readRelation?_eq_some_iff {text number : List Char} {relation : Relation} :
    readRelation? text = some (relation, number) ↔
      SpellsRelation text relation number ∧ isBound number = true := by
  constructor
  · intro read
    simp only [readRelation?, Option.bind_eq_bind, Option.bind_eq_some_iff] at read
    obtain ⟨⟨found, rest⟩, split, read⟩ := read
    simp only at read
    split at read
    next bound =>
      cases read
      refine ⟨⟨rest.takeWhile Text.isBlank, Text.blank_takeWhile rest, ?_⟩, bound⟩
      rw [List.append_assoc, Text.trimStart, List.takeWhile_append_dropWhile]
      exact sign_of_takeRelation? split
    next => contradiction
  · rintro ⟨⟨gap, blank, shape⟩, bound⟩
    obtain ⟨first, rest, parts, starts⟩ := exists_first_of_isBound bound
    have visible : Text.isBlank first = false := by
      rcases starts with minus | digit
      · rw [minus]
        rfl
      · exact isBlank_of_isDigit digit
    have trimmed : Text.trimStart (gap ++ number) = number :=
      Text.dropWhile_run blank fun character here => by
        rw [parts] at here
        exact Option.some.inj here ▸ visible
    have ended : ∀ character ∈ (gap ++ number).head?, character ≠ '=' := by
      intro character here same
      cases gap with
      | nil =>
          rw [List.nil_append, parts] at here
          have isFirst : first = '=' := (Option.some.inj here).trans same
          rw [isFirst] at starts
          rcases starts with minus | digit <;> contradiction
      | cons space gap =>
          have isSpace := blank space List.mem_cons_self
          have isFirst : space = '=' := (Option.some.inj here).trans same
          rw [isFirst] at isSpace
          contradiction
    rw [shape, List.append_assoc]
    simp [readRelation?, takeRelation?_sign relation ended, trimmed, bound]

/-! ## Spelled patterns -/

/-- The reader of patterns takes what stands between two slashes, if there is anything. -/
theorem readDelimited?_eq_some_iff {text : List Char} {source : String} :
    readDelimited? text = some source ↔
      source ≠ "" ∧ text = '/' :: (source.toList ++ ['/']) := by
  constructor
  · intro read
    unfold readDelimited? at read
    split at read
    next rest =>
      split at read
      next inner ends =>
        split at read
        next => contradiction
        next nonempty =>
          cases read
          have behind : rest = inner.reverse ++ ['/'] := by
            rw [← List.reverse_reverse rest, ends, List.reverse_cons]
          have present : inner.reverse ≠ [] := by
            simpa using nonempty
          refine ⟨?_, by rw [String.toList_ofList, behind]⟩
          intro empty
          have same := congrArg String.toList empty
          rw [String.toList_ofList] at same
          exact present same
      next => contradiction
    next => contradiction
  · rintro ⟨nonempty, shape⟩
    have present : source.toList ≠ [] := fun empty =>
      nonempty (String.toList_inj.mp empty)
    simp [readDelimited?, shape, present]

end Comparison

end ListInvocation
