import ListInvocation.Proofs.Steps
import ListInvocation.Proofs.Wire.RoundTrip

/-!
Contract: what can be told of a tree that was read.

Owns: a tree that was read is a list of read elements, its leaves above the deepest level
do not look like lists, and texts that cannot look like one.

Does not own: which texts are read.
-/

namespace ListInvocation.Wire

/-- What is read is the list of its elements, each read with all levels left. -/
theorem list_of_decode {text : String} {tree : Tree String} (decoded : decode text = .ok tree) :
    ∃ texts, splitList text.toList = .ok texts ∧
      tree = .list (texts.map (decodeElement maxNesting)) := by
  unfold decode decodeChars decodeWithin at decoded
  cases split : splitList text.toList with
  | error error =>
      rw [split] at decoded
      contradiction
  | ok texts =>
      rw [split] at decoded
      exact ⟨texts, rfl, (Except.ok.inj decoded).symm⟩

/-- An element stays a leaf for one reason only while a level is left: it is no list. -/
theorem leaf_of_decodeElement {levels : Nat} {text : List Char} {value : String}
    (read : decodeElement (levels + 1) text = .leaf value) :
    ∃ error, decode value = .error error := by
  unfold decodeElement at read
  cases split : splitList text with
  | ok texts =>
      rw [split] at read
      contradiction
  | error error =>
      rw [split] at read
      have same : String.ofList text = value := Tree.leaf.inj read
      refine ⟨error, decode_eq_error_iff.mpr ?_⟩
      rw [← same, String.toList_ofList, split]

/-- A text that does not begin like a list is no list. -/
theorem decode_of_head {text : String} {character : Char}
    (head : text.toList.head? = some character) (other : character ≠ '[') :
    decode text = .error (.missingDelimiter '[' 0) := by
  obtain ⟨rest, shape⟩ := List.head?_eq_some_iff.mp head
  rw [decode_eq_error_iff, shape]
  simp only [splitList, Cursor.start, Cursor.readList, Cursor.expect, if_neg other, bind,
    Except.bind]

/-- A decoded tree, seen as an option. -/
theorem decode_of_toOption {text : String} {tree : Tree String}
    (read : (decode text).toOption = some tree) : decode text = .ok tree :=
  eq_ok_of_toOption read

theorem decode_empty : decode "" = .error (.truncated 0) := rfl

end ListInvocation.Wire
