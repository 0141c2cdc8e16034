import ListInvocation.Proofs.Steps
import ListInvocation.Proofs.Wire.Grammar

/-!
Contract: what a cursor has read stands in front of it in the text, in the form of the
grammar.

Owns: for each operation of a cursor the characters that it passes, and the texts that are
one whole list.

Does not own: texts that are not read, or which forms a writer chooses.
-/

namespace ListInvocation.Wire

open ListInvocation.Text ListInvocation.Decimal

/-! ## Passed characters -/

namespace Cursor

variable {cursor next : Cursor}

theorem rest_of_expect {delimiter : Char} (passed : expect delimiter cursor = .ok next) :
    cursor.rest = delimiter :: next.rest := by
  obtain ⟨offset, rest⟩ := cursor
  unfold expect at passed
  cases rest with
  | nil => contradiction
  | cons character rest =>
      simp only at passed
      split at passed
      next same =>
        rw [same, ← Except.ok.inj passed]
      next => contradiction

/-- A count or length that is read is a numeral, and a colon ends it. -/
theorem numeral_of_readLength {length : Nat} (read : readLength cursor = .ok (length, next)) :
    ∃ run, Numeral run ∧ ofDigits run = length ∧ cursor.rest = run ++ ':' :: next.rest := by
  unfold readLength at read
  simp only at read
  split at read
  next => contradiction
  next inRange =>
    split at read
    next passed =>
      cases read
      have colon := rest_of_expect passed
      have digits := List.all_eq_true.mp (List.all_takeWhile (l := cursor.rest) (p := isDigit))
      refine ⟨cursor.rest.takeWhile isDigit, ⟨by omega, by omega, digits⟩, rfl, ?_⟩
      rw [← colon, List.prefix_iff_eq_append.mp (List.takeWhile_prefix isDigit)]
    next => contradiction

theorem rest_of_take {length : Nat} {text : List Char}
    (passed : take length cursor = .ok (text, next)) :
    cursor.rest = text ++ next.rest ∧ byteSize text = length := by
  unfold take at passed
  split at passed
  next split =>
    cases passed
    exact append_of_splitAtByte split
  next =>
    simp only at passed
    split at passed <;> contradiction

/-- An element that is read stands behind a numeral of its length, and a colon ends it. -/
theorem numeral_of_readElement {text : List Char}
    (read : readElement cursor = .ok (text, next)) :
    ∃ run, Numeral run ∧ ofDigits run = byteSize text ∧
      cursor.rest = run ++ ':' :: (text ++ ':' :: next.rest) := by
  unfold readElement at read
  obtain ⟨⟨length, behindLength⟩, lengthRead, read⟩ := steps_of_bind_eq_ok read
  obtain ⟨⟨taken, behindText⟩, textTaken, read⟩ := steps_of_bind_eq_ok read
  obtain ⟨behindColon, colonPassed, read⟩ := steps_of_bind_eq_ok read
  cases read
  obtain ⟨run, numeral, denotes, atLength⟩ := numeral_of_readLength lengthRead
  obtain ⟨atText, size⟩ := rest_of_take textTaken
  refine ⟨run, numeral, denotes.trans size.symm, ?_⟩
  rw [atLength, atText, rest_of_expect colonPassed]

/-- Elements that are read are spelled one after another. -/
theorem elements_of_readElements {count : Nat} {texts : List (List Char)}
    (read : readElements count cursor = .ok (texts, next)) :
    ∃ body, Elements texts body ∧ texts.length = count ∧ cursor.rest = body ++ next.rest := by
  induction count generalizing cursor texts with
  | zero =>
      cases read
      exact ⟨[], .nil, rfl, rfl⟩
  | succ count inductionHypothesis =>
      unfold readElements at read
      obtain ⟨⟨text, behind⟩, first, read⟩ := steps_of_bind_eq_ok read
      obtain ⟨⟨others, last⟩, later, read⟩ := steps_of_bind_eq_ok read
      cases read
      obtain ⟨run, numeral, denotes, atElement⟩ := numeral_of_readElement first
      obtain ⟨body, spelled, number, atOthers⟩ := inductionHypothesis later
      refine ⟨run ++ ':' :: (text ++ ':' :: body), .cons numeral denotes spelled, ?_, ?_⟩
      · rw [List.length_cons, number]
      · rw [atElement, atOthers]
        simp

end Cursor

/-! ## Whole lists -/

/-- A text that is exactly one list, with the texts of its elements and the number of bytes
behind the colon of its count. -/
inductive Spells : (texts : List (List Char)) → (room : Nat) → (text : List Char) → Prop where
  | list {run body : List Char} {texts : List (List Char)} :
      Numeral run → ofDigits run = texts.length → Elements texts body →
      Spells texts (byteSize (body ++ [']'])) ('[' :: (run ++ ':' :: (body ++ [']'])))

end ListInvocation.Wire
