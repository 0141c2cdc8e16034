import ListInvocation.Proofs.Dialect.Parsing
import ListInvocation.Proofs.Text.Blank
import ListInvocation.Platform

/-!
Contract: a list that is written in one leaf is the list of its elements in branches.

Owns: the trimmed texts between the commas of a text, that they do not depend on blanks
around the text, and that brackets and commas around plain texts give these texts back.

Does not own: elements that hold a comma or have blanks around them, which only branches
can carry.
-/

namespace ListInvocation

open ListInvocation.Text

namespace Parsing

/-! ## Texts between commas -/

theorem splitAtCommas_cons_of_ne {character : Char} {rest first : List Char}
    {others : List (List Char)} (different : character ≠ ',')
    (split : splitAtCommas rest = first :: others) :
    splitAtCommas (character :: rest) = (character :: first) :: others := by
  simp only [splitAtCommas, if_neg different, split]

theorem splitAtCommas_append_comma {front : List Char} (plain : ',' ∉ front)
    (rest : List Char) :
    splitAtCommas (front ++ ',' :: rest) = front :: splitAtCommas rest := by
  induction front with
  | nil => simp [splitAtCommas]
  | cons character front inductionHypothesis =>
      rw [List.mem_cons, not_or] at plain
      exact splitAtCommas_cons_of_ne (Ne.symm plain.1) (inductionHypothesis plain.2)

theorem splitAtCommas_of_plain {text : List Char} (plain : ',' ∉ text) :
    splitAtCommas text = [text] := by
  induction text with
  | nil => rfl
  | cons character text inductionHypothesis =>
      rw [List.mem_cons, not_or] at plain
      exact splitAtCommas_cons_of_ne (Ne.symm plain.1) (inductionHypothesis plain.2)

/-- What is put behind a text goes to the last of its parts. -/
theorem exists_splitAtCommas_append {back : List Char} (plain : ',' ∉ back)
    (text : List Char) :
    ∃ before last, splitAtCommas text = before ++ [last] ∧
      splitAtCommas (text ++ back) = before ++ [last ++ back] := by
  induction text with
  | nil => exact ⟨[], [], rfl, splitAtCommas_of_plain plain⟩
  | cons character text inductionHypothesis =>
      obtain ⟨before, last, split, extended⟩ := inductionHypothesis
      by_cases isComma : character = ','
      · refine ⟨[] :: before, last, ?_, ?_⟩
        · simp [splitAtCommas, isComma, split]
        · simp [splitAtCommas, isComma, extended]
      · cases before with
        | nil =>
            exact ⟨[], character :: last, splitAtCommas_cons_of_ne isComma split,
              splitAtCommas_cons_of_ne isComma extended⟩
        | cons first before =>
            exact ⟨(character :: first) :: before, last,
              splitAtCommas_cons_of_ne isComma split,
              splitAtCommas_cons_of_ne isComma extended⟩

/-- What is put in front of a text goes to the first of its parts. -/
theorem exists_splitAtCommas_prepend {front : List Char} (plain : ',' ∉ front)
    (text : List Char) :
    ∃ first after, splitAtCommas text = first :: after ∧
      splitAtCommas (front ++ text) = (front ++ first) :: after := by
  induction front with
  | nil =>
      obtain ⟨before, last, split, _⟩ := exists_splitAtCommas_append List.not_mem_nil text
      cases before with
      | nil => exact ⟨last, [], split, split⟩
      | cons first before => exact ⟨first, before ++ [last], split, split⟩
  | cons character front inductionHypothesis =>
      rw [List.mem_cons, not_or] at plain
      obtain ⟨first, after, split, extended⟩ := inductionHypothesis plain.2
      exact ⟨first, after, split, splitAtCommas_cons_of_ne (Ne.symm plain.1) extended⟩

/-! ## Blanks around them -/

/-- The texts between the commas of a text, without the blanks around each. -/
def trimmedParts (text : List Char) : List (List Char) :=
  (splitAtCommas text).map trim

theorem comma_notMem_of_blank {text : List Char} (blank : Blank text) : ',' ∉ text := by
  intro member
  have isBlankComma := blank ',' member
  contradiction

/-- Blanks around a text are blanks around its first and its last part. -/
theorem trimmedParts_blank_append {front back : List Char} (frontBlank : Blank front)
    (backBlank : Blank back) (text : List Char) :
    trimmedParts (front ++ text ++ back) = trimmedParts text := by
  have nothing : Blank [] := nofun
  have atFront : trimmedParts (front ++ text) = trimmedParts text := by
    obtain ⟨first, after, split, extended⟩ :=
      exists_splitAtCommas_prepend (comma_notMem_of_blank frontBlank) text
    have sameFirst := trim_blank_append frontBlank nothing first
    rw [List.append_nil] at sameFirst
    rw [trimmedParts, trimmedParts, split, extended, List.map_cons, List.map_cons, sameFirst]
  obtain ⟨before, last, split, extended⟩ :=
    exists_splitAtCommas_append (comma_notMem_of_blank backBlank) (front ++ text)
  have sameLast := trim_blank_append nothing backBlank last
  rw [List.nil_append] at sameLast
  rw [← atFront, trimmedParts, trimmedParts, split, extended, List.map_append, List.map_append,
    List.map_singleton, List.map_singleton, sameLast]

theorem trimmedParts_trim (text : List Char) : trimmedParts (trim text) = trimmedParts text := by
  obtain ⟨front, back, frontBlank, backBlank, parts⟩ := exists_blank_trim text
  rw [← trimmedParts_blank_append frontBlank backBlank (trim text), ← parts]

/-- Texts without commas, and without blanks at their ends, come back from their join by a comma
and a blank. The induction takes one text and the separator behind it at a time. -/
theorem trimmedParts_intercalate {texts : List (List Char)} (nonempty : texts ≠ [])
    (plain : ∀ text ∈ texts, ',' ∉ text ∧ trim text = text) :
    trimmedParts ([',', ' '].intercalate texts) = texts := by
  induction texts with
  | nil => contradiction
  | cons text rest inductionHypothesis =>
      obtain ⟨here, later⟩ := List.forall_mem_cons.mp plain
      cases rest with
      | nil =>
          rw [List.intercalate_singleton, trimmedParts, splitAtCommas_of_plain here.1,
            List.map_singleton, here.2]
      | cons next rest =>
          have spaced : Blank [' '] := by
            intro character member
            rw [List.mem_singleton.mp member]
            rfl
          have nothing : Blank [] := nofun
          have behind := trimmedParts_blank_append spaced nothing
            ([',', ' '].intercalate (next :: rest))
          have rejoined := inductionHypothesis (List.cons_ne_nil next rest) later
          have written : [',', ' '].intercalate (text :: next :: rest) =
              text ++ ',' :: ([' '] ++ [',', ' '].intercalate (next :: rest) ++ []) := by
            rw [List.intercalate_cons_cons]
            simp
          rw [written, trimmedParts, splitAtCommas_append_comma here.1, List.map_cons, here.2]
          exact congrArg (text :: ·) (behind.trans rejoined)

/-! ## Brackets -/

theorem withoutBrackets_bracketed (text : List Char) :
    withoutBrackets ('[' :: text ++ [']']) = text := by
  simp [withoutBrackets]

/-- No blank stands in front of a bracket that opens or behind one that closes. -/
theorem trim_bracketed (text : List Char) :
    trim ('[' :: text ++ [']']) = '[' :: text ++ [']'] := by
  have opening : isBlank '[' = false := rfl
  have closing : isBlank ']' = false := rfl
  simp [trim, trimStart, trimEnd, opening, closing]

/-- A leaf in brackets has the parts between them as its elements, and none of a blank. -/
theorem splitLeaf_bracketed (inside : String) :
    splitLeaf ("[" ++ inside ++ "]") =
      if (trim inside.toList).isEmpty then []
      else (trimmedParts inside.toList).map String.ofList := by
  have characters : ("[" ++ inside ++ "]").toList = '[' :: inside.toList ++ [']'] := by
    rw [String.toList_append, String.toList_append]
    rfl
  rw [splitLeaf, characters, trim_bracketed, withoutBrackets_bracketed,
    ← trimmedParts_trim inside.toList, trimmedParts, List.map_map]
  rfl

theorem splitLeaf_delimited {texts : List String} (notEmptyText : texts ≠ [""])
    (plain : ∀ text ∈ texts, ',' ∉ text.toList ∧ trimmed text = text) :
    splitLeaf ("[" ++ String.intercalate ", " texts ++ "]") = texts := by
  rw [splitLeaf_bracketed, String.toList_intercalate]
  by_cases noTexts : texts = []
  · rw [noTexts]
    rfl
  · have plainCharacters : ∀ text ∈ texts.map String.toList, ',' ∉ text ∧ trim text = text := by
      intro characters member
      obtain ⟨text, inside, rfl⟩ := List.mem_map.mp member
      obtain ⟨noComma, isTrimmed⟩ := plain text inside
      have same := congrArg String.toList isTrimmed
      rw [trimmed, String.toList_ofList] at same
      exact ⟨noComma, same⟩
    have nonempty : texts.map String.toList ≠ [] := by simpa using noTexts
    have parts : trimmedParts ([',', ' '].intercalate (texts.map String.toList)) =
        texts.map String.toList := trimmedParts_intercalate nonempty plainCharacters
    have notBlank : (trim ([',', ' '].intercalate (texts.map String.toList))).isEmpty = false := by
      rw [List.isEmpty_eq_false_iff]
      intro blank
      -- A blank between the brackets has one part, the empty text.
      rw [← trimmedParts_trim, blank] at parts
      apply notEmptyText
      have onlyEmpty : texts.map String.toList = [""].map String.toList := parts.symm
      exact (List.map_inj_right fun _ _ => String.toList_inj.mp).mp onlyEmpty
    have separator : ", ".toList = [',', ' '] := rfl
    rw [separator, notBlank, parts, List.map_map]
    simp

end Parsing

/-! ## Both forms of a list -/

variable [Pattern.Library]

namespace Dialect

variable (format : NumberFormat)

/-- Texts without commas and without blanks around them are parsed as a list in the same way
from one leaf, in brackets and between commas, as from a branch for each. Only the list of
one empty text has no such leaf: empty brackets are the empty list. -/
theorem parse_delimited (element : ValueType) {texts : List String} (value : String)
    (notEmptyText : texts ≠ [""])
    (plain : ∀ text ∈ texts, ',' ∉ text.toList ∧ trimmed text = text) :
    (standard.withFormat format).parse (.list element)
        (.text ("[" ++ String.intercalate ", " texts ++ "]")) =
      (standard.withFormat format).parse (.list element)
        (.node value (texts.map Tree.text)) := by
  have sameElements :
      Parsing.elementTrees (.text ("[" ++ String.intercalate ", " texts ++ "]")) =
        Parsing.elementTrees (.node value (texts.map Tree.text)) := by
    rw [Parsing.elementTrees, Parsing.splitLeaf_delimited notEmptyText plain,
      Parsing.elementTrees]
  rw [parse_list, parse_list, sameElements]

end Dialect

end ListInvocation

namespace ListInvocation.Dialect

open ListInvocation.Text

/-- Empty texts at both ends and brackets inside are kept. -/
theorem parse_delimited_emptyEnds :
    (["", "[x]", "]", ""] : List String) ≠ [""] ∧
      (∀ text ∈ ["", "[x]", "]", ""], ',' ∉ text.toList ∧ trimmed text = text) ∧
      standard.parse (.list .text) (.text "[, [x], ], ]") =
        standard.parse (.list .text) (.node "" (["", "[x]", "]", ""].map Tree.text)) := by
  have notEmptyText : (["", "[x]", "]", ""] : List String) ≠ [""] := by decide
  have plain : ∀ text ∈ ["", "[x]", "]", ""], ',' ∉ text.toList ∧ trimmed text = text := by
    decide
  have written : "[" ++ String.intercalate ", " ["", "[x]", "]", ""] ++ "]" = "[, [x], ], ]" := by
    decide
  have parsed := parse_delimited .invariant .text "" notEmptyText plain
  rw [written] at parsed
  exact ⟨notEmptyText, plain, parsed⟩

end ListInvocation.Dialect
