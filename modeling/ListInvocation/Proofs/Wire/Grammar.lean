import ListInvocation.Wire.List
import ListInvocation.Proofs.Text.Bytes
import ListInvocation.Proofs.Decimal.Natural

/-!
Contract: the grammar of written lists, and its reading.

Owns: numerals, the forms of elements and of whole lists, the fact that a cursor in front
of such a form passes it and returns what it spells, and the failure behind a whole list.

Does not own: which of these forms a writer chooses.
-/

namespace ListInvocation.Wire

open ListInvocation.Text ListInvocation.Decimal

/-! ## Forms -/

/-- A run of digits that can stand for a count or a length. -/
structure Numeral (run : List Char) : Prop where
  positive : 0 < run.length
  short : run.length ≤ maxLengthDigits
  digits : ∀ character ∈ run, isDigit character = true

/-- A body that spells elements one after another, each behind its length. -/
inductive Elements : (texts : List (List Char)) → (body : List Char) → Prop where
  | nil : Elements [] []
  | cons {run text body : List Char} {texts : List (List Char)} :
      Numeral run → ofDigits run = byteSize text → Elements texts body →
      Elements (text :: texts) (run ++ ':' :: (text ++ ':' :: body))

/-- Digits take a byte each. -/
theorem byteSize_of_digits {run : List Char}
    (digits : ∀ character ∈ run, isDigit character = true) : byteSize run = run.length := by
  induction run with
  | nil => rfl
  | cons character rest inductionHypothesis =>
      have single := utf8Size_of_isDigit (digits character (by simp))
      have others := inductionHypothesis fun other member =>
        digits other (List.mem_cons_of_mem character member)
      rw [byteSize_cons, List.length_cons, single, others]
      omega

/-- A colon ends a run of digits. -/
theorem takeWhile_isDigit {run : List Char}
    (digits : ∀ character ∈ run, isDigit character = true) (rest : List Char) :
    (run ++ ':' :: rest).takeWhile isDigit = run := by
  rw [List.takeWhile_append_of_pos digits, List.takeWhile_cons_of_neg (by decide),
    List.append_nil]

theorem Numeral.byteSize_eq {run : List Char} (numeral : Numeral run) :
    byteSize run = run.length :=
  byteSize_of_digits numeral.digits

/-! ## Reading -/

namespace Cursor

theorem expect_here (delimiter : Char) (offset : Nat) (rest : List Char) :
    expect delimiter ⟨offset, delimiter :: rest⟩ =
      .ok ⟨offset + delimiter.utf8Size, rest⟩ := by
  simp only [expect, if_pos]

theorem readLength_numeral {run : List Char} (numeral : Numeral run) (offset : Nat)
    (rest : List Char) :
    readLength ⟨offset, run ++ ':' :: rest⟩ =
      .ok (ofDigits run, ⟨offset + byteSize (run ++ [':']), rest⟩) := by
  have runEq := takeWhile_isDigit numeral.digits rest
  have inRange : ¬ (run.length = 0 ∨ maxLengthDigits < run.length) := by
    have positive := numeral.positive
    have short := numeral.short
    omega
  simp only [readLength, runEq, if_neg inRange, List.drop_left, expect_here,
    byteSize_append, numeral.byteSize_eq, byteSize_cons, byteSize_nil]
  rfl

theorem take_here (offset : Nat) (text rest : List Char) :
    take (byteSize text) ⟨offset, text ++ rest⟩ =
      .ok (text, ⟨offset + byteSize text, rest⟩) := by
  simp only [take, splitAtByte_append]

theorem readElement_here {run text : List Char} (numeral : Numeral run)
    (denotes : ofDigits run = byteSize text) (offset : Nat) (rest : List Char) :
    readElement ⟨offset, run ++ ':' :: (text ++ ':' :: rest)⟩ =
      .ok (text, ⟨offset + byteSize (run ++ ':' :: (text ++ [':'])), rest⟩) := by
  simp only [readElement, readLength_numeral numeral, denotes, bind, Except.bind, take_here,
    expect_here, pure, Except.pure, byteSize_append, byteSize_cons, byteSize_nil]
  congr 3
  omega

/-- The texts of a body are read one after another, and nothing behind it. -/
theorem readElements_here {texts : List (List Char)} {body : List Char}
    (spelled : Elements texts body) (offset : Nat) (rest : List Char) :
    readElements texts.length ⟨offset, body ++ rest⟩ =
      .ok (texts, ⟨offset + byteSize body, rest⟩) := by
  induction spelled generalizing offset with
  | nil => rfl
  | @cons run text body texts numeral denotes spelled inductionHypothesis =>
      have shape : run ++ ':' :: (text ++ ':' :: body) ++ rest =
          run ++ ':' :: (text ++ ':' :: (body ++ rest)) := by
        simp
      rw [shape, List.length_cons, readElements, readElement_here numeral denotes]
      simp only [bind, Except.bind, inductionHypothesis, pure, Except.pure, byteSize_append,
        byteSize_cons, byteSize_nil]
      congr 3
      omega

/-- A list whose count the text behind it can hold is passed with its elements, and nothing
behind it. -/
theorem readList_here {run body : List Char} {texts : List (List Char)}
    (numeral : Numeral run) (denotes : ofDigits run = texts.length)
    (spelled : Elements texts body) (offset : Nat) (rest : List Char)
    (fits : texts.length ≤ byteSize (body ++ ']' :: rest) / minElementBytes) :
    readList ⟨offset, '[' :: (run ++ ':' :: (body ++ ']' :: rest))⟩ =
      .ok (texts, ⟨offset + byteSize ('[' :: (run ++ ':' :: (body ++ [']']))), rest⟩) := by
  have notRefused :
      ¬ byteSize (body ++ ']' :: rest) / minElementBytes < texts.length := by
    omega
  simp only [readList, bind, Except.bind, expect_here, readLength_numeral numeral, denotes,
    if_neg notRefused, readElements_here spelled, pure, Except.pure]
  simp only [byteSize_append, byteSize_cons, byteSize_nil]
  congr 3
  omega

end Cursor

/-- A list whose count the text behind it can hold is read as the texts
that its body spells. -/
theorem splitList_of_elements {run body : List Char} {texts : List (List Char)}
    (numeral : Numeral run) (denotes : ofDigits run = texts.length)
    (spelled : Elements texts body)
    (fits : texts.length ≤ byteSize (body ++ [']']) / minElementBytes) :
    splitList ('[' :: (run ++ ':' :: (body ++ [']']))) = .ok texts := by
  have read := Cursor.readList_here numeral denotes spelled 0 [] fits
  simp only [splitList, Cursor.start, read, bind, Except.bind, pure, Except.pure,
    List.isEmpty_nil, if_true]

/-- What stands behind a list is reported at the end of the list. -/
theorem splitList_of_trailing {run body rest : List Char} {texts : List (List Char)}
    (numeral : Numeral run) (denotes : ofDigits run = texts.length)
    (spelled : Elements texts body)
    (fits : texts.length ≤ byteSize (body ++ ']' :: rest) / minElementBytes)
    (more : rest ≠ []) :
    splitList ('[' :: (run ++ ':' :: (body ++ ']' :: rest))) =
      .error (.trailingData (byteSize ('[' :: (run ++ ':' :: (body ++ [']']))))) := by
  have read := Cursor.readList_here numeral denotes spelled 0 rest fits
  have notEmpty : rest.isEmpty = false := List.isEmpty_eq_false_iff.mpr more
  simp only [splitList, Cursor.start, read, bind, Except.bind, notEmpty, Bool.false_eq_true,
    if_false, Nat.zero_add]
  rfl

end ListInvocation.Wire
