import Mathlib.Data.List.TakeWhile
import ListInvocation.Proofs.Symbols
import ListInvocation.Proofs.Text.Run
import ListInvocation.Platform

/-!
Contract: a text as literal parts and references, and what substitution makes of it.

Every text is read in exactly one way: a literal part without signs, and then references, each
with the longest name that can be read and with the literal part behind it. Substitution keeps
the literal parts and puts a text in the place of each reference.

Owns: readings, that a text has one and only one, the text in the place of a name, and the
substitution in a text by its reading.

Does not own: leaves that are one reference.
-/

namespace ListInvocation.SymbolTable

open ListInvocation.Text

variable {literal : List Char}

theorem ne_sign_of_plain (plain : referenceSign ∉ literal) :
    ∀ character ∈ literal, (character != referenceSign) = true := by
  intro character member
  have different : character ≠ referenceSign := fun same => plain (same ▸ member)
  simpa using different

theorem dropWhile_of_plain (plain : referenceSign ∉ literal) :
    literal.dropWhile (· != referenceSign) = [] := by
  rw [List.dropWhile_eq_nil_iff]
  exact ne_sign_of_plain plain

/-- Up to the first sign everything is literal. -/
theorem split_sign (plain : referenceSign ∉ literal) (rest : List Char) :
    (literal ++ referenceSign :: rest).takeWhile (· != referenceSign) = literal ∧
      (literal ++ referenceSign :: rest).dropWhile (· != referenceSign) =
        referenceSign :: rest := by
  have ended : ∀ character ∈ (referenceSign :: rest).head?,
      (character != referenceSign) = false := by
    intro character here
    simp [← Option.some.inj here]
  exact ⟨takeWhile_run (ne_sign_of_plain plain) ended,
    dropWhile_run (ne_sign_of_plain plain) ended⟩

/-! ## References -/

/-- The text in the place of a reference: that of a symbol, where a name is bound to one, and
the reference itself otherwise. -/
inductive Stands (table : SymbolTable) : (name text : List Char) → Prop where
  | symbol {name : List Char} {value : String} : name ≠ [] →
      table.find? (String.ofList name) = some (.leaf value) → Stands table name value.toList
  | verbatim {name : List Char} :
      name = [] ∨ (∀ value, table.find? (String.ofList name) ≠ some (.leaf value)) →
      Stands table name (referenceSign :: name)

theorem stands_referenceText (table : SymbolTable) (name : List Char) :
    table.Stands name (table.referenceText name) := by
  unfold referenceText
  split
  next value bound =>
    split
    next empty => exact .verbatim (.inl (List.isEmpty_iff.mp empty))
    next present => exact .symbol (mt List.isEmpty_iff.mpr present) bound
  next unbound => exact .verbatim (.inr unbound)

/-! ## Readings -/

variable [Text.Alphabet]

/-- A reference and the literal part behind it, which does not go on with the name. -/
structure Reference where
  name : List Char
  literal : List Char
  named : ∀ character ∈ name, isNameCharacter character = true
  ended : ∀ character ∈ literal.head?, isNameCharacter character = false
  plain : referenceSign ∉ literal

/-- A literal part and the references behind it. -/
structure Reading where
  literal : List Char
  references : List Reference
  plain : referenceSign ∉ literal

namespace Reading

/-- A text with the literal parts of a reading and something else in place of its references. -/
def written (reading : Reading) (inPlace : List Char → List Char) : List Char :=
  reading.literal ++ reading.references.flatMap fun reference =>
    inPlace reference.name ++ reference.literal

def text (reading : Reading) : List Char :=
  reading.written fun name => referenceSign :: name

/-- What is read behind the name of the first reference. -/
def behind (reference : Reference) (references : List Reference) : Reading :=
  ⟨reference.literal, references, reference.plain⟩

section Parts

variable {plain : referenceSign ∉ literal} {reference : Reference}
  {references : List Reference}

theorem text_nil : (Reading.mk literal [] plain).text = literal := by
  simp [text, written]

theorem written_cons (inPlace : List Char → List Char) :
    (Reading.mk literal (reference :: references) plain).written inPlace =
      literal ++ inPlace reference.name ++ (behind reference references).written inPlace := by
  simp [behind, written]

theorem text_cons :
    (Reading.mk literal (reference :: references) plain).text =
      literal ++ referenceSign :: (reference.name ++ (behind reference references).text) := by
  simp [text, written_cons]

theorem isNameCharacter_sign : isNameCharacter referenceSign = false := by
  rw [isNameCharacter, Alphabet.isAlphanumeric_ascii _ (by decide)]
  decide

/-- What follows a name does not go on with it. -/
theorem ended_behind (reference : Reference) (references : List Reference) :
    ∀ character ∈ (behind reference references).text.head?,
      isNameCharacter character = false := by
  intro character here
  cases shape : reference.literal with
  | cons first rest =>
      have isFirst : first = character := by
        simpa [behind, text, written, shape] using here
      exact reference.ended character (by rw [shape, isFirst]; rfl)
  | nil =>
      cases references with
      | nil => simp [behind, text, written, shape] at here
      | cons next references =>
          have isSign : referenceSign = character := by
            simpa [behind, text, written, shape] using here
          rw [← isSign]
          exact isNameCharacter_sign

theorem split_name (reference : Reference) (references : List Reference) :
    (reference.name ++ (behind reference references).text).takeWhile isNameCharacter =
        reference.name ∧
      (reference.name ++ (behind reference references).text).dropWhile isNameCharacter =
        (behind reference references).text :=
  ⟨takeWhile_run reference.named (ended_behind reference references),
    dropWhile_run reference.named (ended_behind reference references)⟩

end Parts

/-! ## Every text has one reading -/

/-- The induction reads from the end: a sign makes a name of the name characters that the
literal part behind it begins with. -/
theorem exists_reading (text : List Char) : ∃ reading : Reading, reading.text = text := by
  induction text with
  | nil => exact ⟨⟨[], [], nofun⟩, text_nil⟩
  | cons character rest inductionHypothesis =>
      obtain ⟨⟨literal, references, plain⟩, read⟩ := inductionHypothesis
      by_cases sign : character = referenceSign
      · have ended : ∀ next ∈ (literal.dropWhile isNameCharacter).head?,
            isNameCharacter next = false := by
          intro next here
          have stops := List.head?_dropWhile_not isNameCharacter literal
          rw [here] at stops
          simpa using stops
        have partPlain : referenceSign ∉ literal.dropWhile isNameCharacter := fun member =>
          plain ((List.dropWhile_sublist _).mem member)
        let reference : Reference := ⟨literal.takeWhile isNameCharacter,
          literal.dropWhile isNameCharacter, List.all_eq_true.mp List.all_takeWhile, ended,
          partPlain⟩
        refine ⟨⟨[], reference :: references, nofun⟩, ?_⟩
        rw [text_cons, ← read, sign]
        simp [behind, Reading.text, written, reference, ← List.append_assoc]
      · have longer : referenceSign ∉ character :: literal := by
          simp [plain, Ne.symm sign]
        exact ⟨⟨character :: literal, references, longer⟩, by rw [← read]; rfl⟩

/-- Literal parts end at signs and names end where they must, so that both are determined. -/
theorem text_injective {first second : Reading} (same : first.text = second.text) :
    first = second := by
  obtain ⟨literal, references, plain⟩ := first
  induction references generalizing literal second with
  | nil =>
      obtain ⟨otherLiteral, others, otherPlain⟩ := second
      cases others with
      | nil =>
          rw [text_nil, text_nil] at same
          cases same
          rfl
      | cons other others =>
          rw [text_nil, text_cons] at same
          exact absurd (by rw [same]; simp) plain
  | cons reference references inductionHypothesis =>
      obtain ⟨otherLiteral, others, otherPlain⟩ := second
      cases others with
      | nil =>
          rw [text_nil, text_cons] at same
          exact absurd (by rw [← same]; simp) otherPlain
      | cons other others =>
          rw [text_cons, text_cons] at same
          -- The texts are cut at the first sign, and then where the first name ends.
          have sameLiteral := congrArg (List.takeWhile (· != referenceSign)) same
          rw [(split_sign plain _).1, (split_sign otherPlain _).1] at sameLiteral
          have sameRest := congrArg (List.dropWhile (· != referenceSign)) same
          rw [(split_sign plain _).2, (split_sign otherPlain _).2] at sameRest
          have sameTail := (List.cons.inj sameRest).2
          have sameName := congrArg (List.takeWhile isNameCharacter) sameTail
          rw [(split_name reference references).1, (split_name other others).1] at sameName
          have sameBehind := congrArg (List.dropWhile isNameCharacter) sameTail
          rw [(split_name reference references).2, (split_name other others).2] at sameBehind
          have later := inductionHypothesis _ reference.plain sameBehind
          obtain ⟨name, part, named, ended, partPlain⟩ := reference
          obtain ⟨otherName, otherPart, otherNamed, otherEnded, otherPartPlain⟩ := other
          cases later
          cases sameName
          cases sameLiteral
          rfl

end Reading

/-! ## Substitution by readings -/

theorem substituteChars_of_plain (table : SymbolTable) {literal : List Char}
    (plain : referenceSign ∉ literal) : table.substituteChars literal = literal := by
  rw [substituteChars]
  split
  next => rfl
  next behind =>
    rw [dropWhile_of_plain plain] at behind
    contradiction

/-- The pass takes one literal part and one reference at a time. -/
theorem substituteChars_sign (table : SymbolTable) {literal : List Char}
    (plain : referenceSign ∉ literal) (rest : List Char) :
    table.substituteChars (literal ++ referenceSign :: rest) =
      literal ++ table.referenceText (rest.takeWhile isNameCharacter) ++
        table.substituteChars (rest.dropWhile isNameCharacter) := by
  obtain ⟨upToSign, fromSign⟩ := split_sign plain rest
  rw [substituteChars]
  split
  next behind =>
    rw [fromSign] at behind
    contradiction
  next sign rest behind =>
    rw [fromSign] at behind
    cases behind
    rw [upToSign]

theorem substituteChars_text (table : SymbolTable) (reading : Reading) :
    table.substituteChars reading.text = reading.written table.referenceText := by
  obtain ⟨literal, references, plain⟩ := reading
  induction references generalizing literal with
  | nil =>
      rw [Reading.text_nil, substituteChars_of_plain table plain]
      simp [Reading.written]
  | cons reference references inductionHypothesis =>
      obtain ⟨ownName, afterName⟩ := Reading.split_name reference references
      rw [Reading.text_cons, substituteChars_sign table plain, ownName, afterName,
        Reading.written_cons]
      exact congrArg _ (inductionHypothesis _ reference.plain)

/-- The pass changes nothing where there are no symbols or no signs, so that it may be left
out. -/
theorem substituteText_eq (table : SymbolTable) (text : String) :
    table.substituteText text = String.ofList (table.substituteChars text.toList) := by
  unfold substituteText
  split
  next idle =>
    obtain ⟨reading, read⟩ := Reading.exists_reading text.toList
    have unchanged : reading.written table.referenceText = reading.text := by
      rcases Bool.or_eq_true_iff.mp idle with noSymbols | noSigns
      · have verbatim : table.referenceText = fun name => referenceSign :: name := by
          funext name
          simp [referenceText, find?, List.isEmpty_iff.mp noSymbols]
        rw [verbatim, Reading.text]
      · have absent : referenceSign ∉ reading.text := by
          rw [read]
          simpa using noSigns
        obtain ⟨literal, references, plain⟩ := reading
        cases references with
        | nil => simp [Reading.text, Reading.written]
        | cons reference references =>
            rw [Reading.text_cons] at absent
            exact absurd (by simp) absent
    rw [← read, substituteChars_text, unchanged, read, String.ofList_toList]
  next => rfl

/-- A text has one reading, and its substitution is that reading with the literal parts as they
are and each reference replaced by what stands in its place; the replacements are not read
again. -/
theorem substituteText_reading (table : SymbolTable) (text : String) :
    ∃ reading : Reading, reading.text = text.toList ∧
      (∀ other : Reading, other.text = text.toList → other = reading) ∧
      (∃ inPlace, (∀ name, table.Stands name (inPlace name)) ∧
        (table.substituteText text).toList = reading.written inPlace) ∧
      table.substituteText text = String.ofList (table.substituteChars text.toList) := by
  obtain ⟨reading, read⟩ := Reading.exists_reading text.toList
  refine ⟨reading, read, ?_, ⟨table.referenceText, table.stands_referenceText, ?_⟩,
    table.substituteText_eq text⟩
  · intro other alsoRead
    exact Reading.text_injective (alsoRead.trans read.symm)
  · rw [substituteText_eq, ← read, String.toList_ofList, substituteChars_text]

end ListInvocation.SymbolTable

namespace ListInvocation.SymbolTable

open ListInvocation.Text

/-- A name that begins another one, a sign behind a sign, and a text that holds a sign itself. -/
example : ((empty.assign "a" (.text "$b")).assign "b" (.text "2")).substituteText
    "$a$b, $ab, $$b$" = "$b2, $ab, $2$" := by
  decide +kernel

end ListInvocation.SymbolTable
