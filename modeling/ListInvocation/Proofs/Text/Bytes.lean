import ListInvocation.Text.Bytes

/-!
Contract: laws of lengths in bytes.

Owns: the size of a text in terms of its parts, its agreement with the size of a
string, and the split at the border between two texts, both ways.

Does not own: splits inside a character, or beyond the end of a text.
-/

namespace ListInvocation.Text

/-! ## Sizes -/

private theorem foldl_utf8Size (text : List Char) (initial : Nat) :
    text.foldl (fun size character => size + character.utf8Size) initial =
      initial + byteSize text := by
  induction text generalizing initial with
  | nil => simp [byteSize]
  | cons character rest inductionHypothesis =>
      unfold byteSize
      simp only [List.foldl_cons]
      rw [inductionHypothesis (initial + character.utf8Size),
        inductionHypothesis (0 + character.utf8Size)]
      omega

@[simp] theorem byteSize_nil : byteSize [] = 0 := rfl

@[simp] theorem byteSize_cons (character : Char) (rest : List Char) :
    byteSize (character :: rest) = character.utf8Size + byteSize rest := by
  change rest.foldl (fun size character => size + character.utf8Size)
    (0 + character.utf8Size) = character.utf8Size + byteSize rest
  rw [foldl_utf8Size]
  omega

@[simp] theorem byteSize_append (left right : List Char) :
    byteSize (left ++ right) = byteSize left + byteSize right := by
  induction left with
  | nil => simp
  | cons character rest inductionHypothesis =>
      rw [List.cons_append, byteSize_cons, byteSize_cons, inductionHypothesis]
      omega

/-- No character takes less than a byte. -/
theorem length_le_byteSize (text : List Char) : text.length ≤ byteSize text := by
  induction text with
  | nil => simp
  | cons character rest inductionHypothesis =>
      have positive := character.utf8Size_pos
      rw [List.length_cons, byteSize_cons]
      omega

/-- The size of a list of characters is the size of the string that it spells. -/
theorem utf8ByteSize_ofList (text : List Char) :
    (String.ofList text).utf8ByteSize = byteSize text := by
  induction text with
  | nil => rfl
  | cons character rest inductionHypothesis =>
      have split : String.ofList (character :: rest) =
          String.singleton character ++ String.ofList rest := by
        rw [String.singleton_eq_ofList, ← String.ofList_append, List.singleton_append]
      rw [split, String.utf8ByteSize_append, String.utf8ByteSize_singleton,
        inductionHypothesis, byteSize_cons]

theorem byteSize_toList (text : String) : byteSize text.toList = text.utf8ByteSize := by
  rw [← utf8ByteSize_ofList, String.ofList_toList]

/-! ## Splitting -/

/-- The walk passes exactly the characters in front of the border. -/
private theorem splitAtByteFrom_append (passed text rest : List Char) :
    splitAtByteFrom passed (byteSize text) (text ++ rest) =
      some (passed.reverse ++ text, rest) := by
  induction text generalizing passed with
  | nil => simp [splitAtByteFrom]
  | cons character tail inductionHypothesis =>
      have positive := character.utf8Size_pos
      obtain ⟨count, sizeEq⟩ :
          ∃ count, byteSize (character :: tail) = count + 1 :=
        ⟨byteSize (character :: tail) - 1, by rw [byteSize_cons]; omega⟩
      have remaining : count + 1 - character.utf8Size = byteSize tail := by
        rw [byteSize_cons] at sizeEq
        omega
      have fits : character.utf8Size ≤ count + 1 := by
        rw [byteSize_cons] at sizeEq
        omega
      rw [sizeEq, List.cons_append, splitAtByteFrom, if_pos fits, remaining,
        inductionHypothesis]
      simp

/-- A text in front of another one is split off at its own size. -/
theorem splitAtByte_append (text rest : List Char) :
    splitAtByte (byteSize text) (text ++ rest) = some (text, rest) := by
  rw [splitAtByte, splitAtByteFrom_append]
  rfl

/-- Two texts that begin with parts of one size have the same parts when they are the same. -/
theorem append_inj_of_byteSize {left right leftRest rightRest : List Char}
    (sameSize : byteSize left = byteSize right) (same : left ++ leftRest = right ++ rightRest) :
    left = right ∧ leftRest = rightRest := by
  have split := splitAtByte_append left leftRest
  rw [sameSize, same, splitAtByte_append] at split
  cases split
  exact ⟨rfl, rfl⟩

/-- The walk collects what lies in front of the border, behind what was passed before. -/
private theorem append_of_splitAtByteFrom {passed text front rest : List Char} {count : Nat}
    (split : splitAtByteFrom passed count text = some (front, rest)) :
    ∃ walked, front = passed.reverse ++ walked ∧ text = walked ++ rest ∧
      byteSize walked = count := by
  fun_induction splitAtByteFrom passed count text with
  | case1 passed text =>
      cases split
      exact ⟨[], (List.append_nil _).symm, rfl, rfl⟩
  | case2 => contradiction
  | case3 passed count character text fits inductionHypothesis =>
      obtain ⟨walked, frontEq, textEq, size⟩ := inductionHypothesis split
      refine ⟨character :: walked, ?_, ?_, ?_⟩
      · rw [frontEq, List.reverse_cons, List.append_assoc, List.singleton_append]
      · rw [textEq, List.cons_append]
      · rw [byteSize_cons]
        omega
  | case4 => contradiction

/-- A text that is split at a number of bytes is the part of that size and the rest. -/
theorem append_of_splitAtByte {text front rest : List Char} {count : Nat}
    (split : splitAtByte count text = some (front, rest)) :
    text = front ++ rest ∧ byteSize front = count := by
  obtain ⟨walked, frontEq, textEq, size⟩ := append_of_splitAtByteFrom split
  rw [List.reverse_nil, List.nil_append] at frontEq
  rw [frontEq]
  exact ⟨textEq, size⟩

end ListInvocation.Text
