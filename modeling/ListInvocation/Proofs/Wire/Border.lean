import ListInvocation.Proofs.Decimal.Integer
import ListInvocation.Proofs.Wire.FrameReader
import ListInvocation.Proofs.Wire.Layout
import ListInvocation.Proofs.Wire.Nesting
import ListInvocation.Proofs.Wire.Offset

/-!
Contract: a reader by offsets never leaves its text.

Owns: the digits in front of a text as bytes, the agreement of each step by offsets with the
step of a cursor, and the offsets in the record of a decoded text and in its failure.

Does not own: which texts are lists.
-/

namespace ListInvocation.Wire

open ListInvocation.Text ListInvocation.Decimal

/-! ## Digits -/

theorem utf8EncodeChar_of_isDigit {character : Char} (digit : isDigit character = true) :
    ∃ byte, String.utf8EncodeChar character = [byte] ∧ isDigitByte byte = true := by
  refine ⟨_, String.utf8EncodeChar_eq_singleton (utf8Size_of_isDigit digit), ?_⟩
  have range := (isDigit_iff character).mp digit
  rw [isDigitByte, UInt32.toNat_toUInt8, Bool.and_eq_true, decide_eq_true_eq, decide_eq_true_eq]
  omega

/-- Any other character begins with a byte that is no digit. -/
theorem utf8EncodeChar_of_not_isDigit {character : Char} (other : isDigit character = false) :
    ∃ byte bytes, String.utf8EncodeChar character = byte :: bytes ∧ isDigitByte byte = false := by
  have outside : ¬ (48 ≤ character.val.toNat ∧ character.val.toNat ≤ 57) := by
    rw [← isDigit_iff, other]
    exact Bool.false_ne_true
  have noDigit : ∀ code : Nat, code < 256 → ¬ (48 ≤ code ∧ code ≤ 57) →
      isDigitByte (UInt8.ofNat code) = false := by
    intro code isByte noCode
    have same : (UInt8.ofNat code).toNat = code := UInt8.toNat_ofNat_of_lt isByte
    rw [isDigitByte, same, Bool.and_eq_false_iff, decide_eq_false_iff_not,
      decide_eq_false_iff_not]
    omega
  -- Beyond one byte the first one carries a mark above all ASCII characters.
  unfold String.utf8EncodeChar
  simp only
  split
  · exact ⟨_, _, rfl, noDigit _ (by omega) outside⟩
  · split
    · exact ⟨_, _, rfl, noDigit _ (by omega) (by omega)⟩
    · split
      · exact ⟨_, _, rfl, noDigit _ (by omega) (by omega)⟩
      · exact ⟨_, _, rfl, noDigit _ (by omega) (by omega)⟩

theorem leadingDigitBytes_eq (text : List Char) :
    leadingDigitBytes text = (text.takeWhile isDigit).length := by
  induction text with
  | nil => rfl
  | cons character rest inductionHypothesis =>
      unfold leadingDigitBytes at inductionHypothesis ⊢
      rw [List.flatMap_cons]
      cases isDigitHere : isDigit character with
      | true =>
          obtain ⟨byte, bytes, isDigitByte⟩ := utf8EncodeChar_of_isDigit isDigitHere
          rw [bytes, List.singleton_append, List.takeWhile_cons_of_pos isDigitByte,
            List.takeWhile_cons_of_pos isDigitHere, List.length_cons, List.length_cons,
            inductionHypothesis]
      | false =>
          obtain ⟨byte, others, bytes, noDigitByte⟩ := utf8EncodeChar_of_not_isDigit isDigitHere
          rw [bytes, List.cons_append,
            List.takeWhile_cons_of_neg (by rw [noDigitByte]; exact Bool.false_ne_true),
            List.takeWhile_cons_of_neg (by rw [isDigitHere]; exact Bool.false_ne_true)]
          rfl

theorem Numeral.readWord? {run : List Char} (numeral : Numeral run) :
    Wire.readWord? run = some (ofDigits run) := by
  obtain ⟨first, others, rfl⟩ := List.exists_cons_of_length_pos numeral.positive
  have unsigned : splitSign (first :: others) = (false, first :: others) :=
    splitSign_of_isDigit (numeral.digits first List.mem_cons_self) others
  have allDigits : (first :: others).all isDigit = true := List.all_eq_true.mpr numeral.digits
  have small : ofDigits (first :: others) < wordValues := by
    apply Nat.lt_of_lt_of_le (ofDigits_lt numeral.digits)
    exact Nat.le_trans (Nat.pow_le_pow_right (by decide) numeral.short) (by decide)
  simp [Wire.readWord?, unsigned, allDigits, Nat.not_le.mpr small]

/-- The digits in front of a rest can be cut off, and are a machine word. -/
theorem number_eq {run : List Char} (numeral : Numeral run) (rest : List Char)
    (reader : OffsetReader) :
    reader.number run.length (run ++ rest) = pure (ofDigits run) := by
  have cut : slice? 0 run.length (run ++ rest) = some run := by
    have front : splitAtByte run.length (run ++ rest) = some (run, rest) := by
      rw [← numeral.byteSize_eq, splitAtByte_append]
    have whole : splitAtByte 0 (run ++ rest) = some ([], run ++ rest) :=
      splitAtByte_append [] (run ++ rest)
    simp [slice?, whole, front]
  simp only [OffsetReader.number, cut, numeral.readWord?]

/-! ## Positions -/

/-- A cursor stands in a text: what it has passed and what is ahead make up the text. -/
def Cursor.In (text : List Char) (cursor : Cursor) : Prop :=
  ∃ front, text = front ++ cursor.rest ∧ byteSize front = cursor.offset

/-- A reader stands in a text where a cursor stands. -/
inductive Mirrors (text : List Char) : OffsetReader → Cursor → Prop where
  | here {cursor : Cursor} : cursor.In text → Mirrors text ⟨text, cursor.offset⟩ cursor

section Positions

variable {text : List Char} {cursor : Cursor}

theorem Cursor.In.isBorder (inside : cursor.In text) : IsBorder text cursor.offset := by
  obtain ⟨front, whole, size⟩ := inside
  exact ⟨front, cursor.rest, whole, size⟩

theorem Cursor.In.offset_add (inside : cursor.In text) :
    cursor.offset + byteSize cursor.rest = byteSize text := by
  obtain ⟨front, whole, size⟩ := inside
  rw [whole, byteSize_append, size]

theorem Cursor.In.split (inside : cursor.In text) :
    ∃ front, splitAtByte cursor.offset text = some (front, cursor.rest) := by
  obtain ⟨front, whole, size⟩ := inside
  refine ⟨front, ?_⟩
  rw [whole, ← size, splitAtByte_append]

/-- Behind a part of the rest a cursor stands in the same text. -/
theorem Cursor.In.pass (inside : cursor.In text) {part rest : List Char}
    (shape : cursor.rest = part ++ rest) :
    Cursor.In text ⟨cursor.offset + byteSize part, rest⟩ := by
  obtain ⟨front, whole, size⟩ := inside
  refine ⟨front ++ part, ?_, ?_⟩
  · rw [whole, shape, List.append_assoc]
  · rw [byteSize_append, size]

end Positions

/-! ## Steps -/

theorem Cursor.readLength_eq (cursor : Cursor) :
    cursor.readLength =
      if (cursor.rest.takeWhile isDigit).length = 0 ∨
          maxLengthDigits < (cursor.rest.takeWhile isDigit).length then
        .error (.invalidLength cursor.offset)
      else
        expect ':' ⟨cursor.offset + (cursor.rest.takeWhile isDigit).length,
            cursor.rest.drop (cursor.rest.takeWhile isDigit).length⟩ >>= fun next =>
          pure (ofDigits (cursor.rest.takeWhile isDigit), next) := by
  unfold readLength
  simp only
  congr 1
  cases expect ':' ⟨cursor.offset + (cursor.rest.takeWhile isDigit).length,
    cursor.rest.drop (cursor.rest.takeWhile isDigit).length⟩ <;> rfl

open Recorded

/-- Results agree, and reader and cursor stand at the same place behind them. -/
inductive Alongside {α β : Type} (agree : α → β → Prop) (text : List Char) :
    α × OffsetReader → β × Cursor → Prop where
  | here {value : α} {other : β} {cursor : Cursor} : agree value other → cursor.In text →
      Alongside agree text (value, ⟨text, cursor.offset⟩) (other, cursor)

/-- A value that is returned with the reader goes with one that is returned with the cursor. -/
theorem Recorded.Follows.withValue {α β : Type} {agree : α → β → Prop} {text : List Char}
    {size : Nat} {recorded : Recorded OffsetReader} {plain : Except WireError Cursor}
    (follows : recorded.Follows (Mirrors text) size plain) {value : α} {other : β}
    (agrees : agree value other) :
    (recorded >>= fun reader => pure (value, reader)).Follows (Alongside agree text) size
      (plain >>= fun cursor => pure (other, cursor)) := by
  apply follows.bind
  rintro _ cursor ⟨inside⟩
  exact follows_pure (.here agrees inside)

section Steps

variable {text : List Char} {cursor : Cursor} (inside : cursor.In text)

include inside

theorem yields_standAt :
    (OffsetReader.standAt text cursor.offset).Yields ⟨text, cursor.offset⟩ := by
  refine ⟨rfl, ?_⟩
  intro occurrence member
  rw [List.mem_singleton.mp member]
  exact .stands inside.isBorder

theorem rest_eq : OffsetReader.rest ⟨text, cursor.offset⟩ = pure cursor.rest := by
  obtain ⟨front, split⟩ := inside.split
  simp only [OffsetReader.rest, split]

theorem follows_fail_here {α β : Type} {agree : α → β → Prop} {error : WireError}
    (located : error.offset? = some cursor.offset) :
    (Recorded.fail error).Follows agree (byteSize text) (.error error) := by
  apply follows_fail located
  have whole := inside.offset_add
  omega

theorem follows_expect (delimiter : Char) :
    (OffsetReader.expect delimiter ⟨text, cursor.offset⟩).Follows (Mirrors text)
      (byteSize text) (cursor.expect delimiter) := by
  rw [OffsetReader.expect, rest_eq inside, pure_bind, Cursor.expect]
  cases shape : cursor.rest with
  | nil => exact follows_fail_here inside rfl
  | cons character rest =>
      by_cases same : character = delimiter
      · simp only [if_pos same]
        have front : cursor.rest = [character] ++ rest := shape
        have behind := inside.pass front
        rw [byteSize_cons, byteSize_nil, Nat.add_zero, same] at behind
        exact (yields_standAt behind).follows (.here behind)
      · simp only [if_neg same]
        exact follows_fail_here inside rfl

theorem follows_readLength :
    (OffsetReader.readLength ⟨text, cursor.offset⟩).Follows (Alongside Eq text)
      (byteSize text) cursor.readLength := by
  have digits := List.all_eq_true.mp (List.all_takeWhile (l := cursor.rest) (p := isDigit))
  have shape := List.prefix_iff_eq_append.mp (List.takeWhile_prefix isDigit (l := cursor.rest))
  rw [OffsetReader.readLength, rest_eq inside, pure_bind, leadingDigitBytes_eq,
    Cursor.readLength_eq]
  generalize cursor.rest.takeWhile isDigit = run at digits shape ⊢
  by_cases outside : run.length = 0 ∨ maxLengthDigits < run.length
  · simp only [if_pos outside]
    exact follows_fail_here inside rfl
  · have numeral : Numeral run := ⟨by omega, by omega, digits⟩
    have cut := number_eq numeral (cursor.rest.drop run.length) ⟨text, cursor.offset⟩
    rw [shape] at cut
    -- The cursor drops characters and the reader adds bytes; digits are both.
    have behind := inside.pass shape.symm
    rw [numeral.byteSize_eq] at behind
    simp only [if_neg outside, cut, pure_bind]
    apply (yields_standAt behind).bind
    exact (follows_expect behind ':').withValue rfl

theorem follows_take (length : Nat) :
    (OffsetReader.take length ⟨text, cursor.offset⟩).Follows (Alongside Eq text)
      (byteSize text) (cursor.take length) := by
  have whole := inside.offset_add
  obtain ⟨front, split⟩ := inside.split
  rw [OffsetReader.take, Cursor.take]
  cases cut : splitAtByte length cursor.rest with
  | none =>
      have missing : slice? cursor.offset length text = none := by
        simp [slice?, split, cut]
      by_cases short : byteSize text < cursor.offset + length
      · have remaining : byteSize cursor.rest < length := by omega
        simp only [if_pos short, if_pos remaining, whole]
        exact follows_fail rfl (Nat.le_refl _)
      · have remaining : ¬ byteSize cursor.rest < length := by omega
        simp only [if_neg short, if_neg remaining, missing]
        exact follows_fail_here inside rfl
  | some parts =>
      obtain ⟨part, rest⟩ := parts
      obtain ⟨shape, size⟩ := append_of_splitAtByte cut
      have found : slice? cursor.offset length text = some part := by
        simp [slice?, split, cut]
      have enough : ¬ byteSize text < cursor.offset + length := by
        rw [← whole, shape, byteSize_append, size]
        omega
      have behind := inside.pass shape
      rw [size] at behind
      simp only [if_neg enough, found]
      exact ((yields_standAt behind).follows (.here behind)).withValue rfl

theorem follows_readElement :
    (OffsetReader.readElement ⟨text, cursor.offset⟩).Follows (Alongside Eq text)
      (byteSize text) cursor.readElement := by
  rw [OffsetReader.readElement, Cursor.readElement]
  apply (follows_readLength inside).bind
  rintro _ _ @⟨length, _, behindLength, rfl, lengthInside⟩
  apply (follows_take lengthInside length).bind
  rintro _ _ @⟨part, _, behindPart, rfl, partInside⟩
  exact (follows_expect partInside ':').withValue rfl

end Steps

/-! ## Lists -/

section Lists

variable {element : List Char → Recorded (Tree String)} {tree : List Char → Tree String}
  (yields : ∀ text, (element text).Yields (tree text)) {text : List Char}

include yields

/-- The induction is on the number of elements. Nested lists are read between them, with
records of their own. -/
theorem follows_readElements (count : Nat) {cursor : Cursor} (inside : cursor.In text) :
    (OffsetReader.readElements element count ⟨text, cursor.offset⟩).Follows
      (Alongside (fun trees texts => trees = texts.map tree) text) (byteSize text)
      (Cursor.readElements count cursor) := by
  induction count generalizing cursor with
  | zero => exact follows_pure (.here rfl inside)
  | succ count inductionHypothesis =>
      rw [OffsetReader.readElements, Cursor.readElements]
      apply (follows_readElement inside).bind
      rintro _ _ @⟨part, _, behind, rfl, behindInside⟩
      apply (yields part).bind
      apply (inductionHypothesis behindInside).bind
      rintro _ _ ⟨rfl, lastInside⟩
      exact follows_pure (.here rfl lastInside)

theorem follows_readList {cursor : Cursor} (inside : cursor.In text) :
    (OffsetReader.readList element ⟨text, cursor.offset⟩).Follows
      (Alongside (fun list texts => list = .list (texts.map tree)) text) (byteSize text)
      cursor.readList := by
  rw [OffsetReader.readList, Cursor.readList]
  apply (follows_expect inside '[').bind
  rintro _ behindBracket ⟨bracketInside⟩
  apply (follows_readLength bracketInside).bind
  rintro _ _ @⟨count, _, behindCount, rfl, countInside⟩
  simp only [rest_eq countInside, pure_bind]
  by_cases tooMany : byteSize behindCount.rest / minElementBytes < count
  · simp only [if_pos tooMany]
    exact follows_fail_here countInside rfl
  · simp only [if_neg tooMany]
    apply (follows_readElements yields count countInside).bind
    rintro _ _ ⟨rfl, elementsInside⟩
    exact (follows_expect elementsInside ']').withValue rfl

theorem follows_readWhole (text : List Char) :
    (OffsetReader.readWhole element text).Follows
      (fun list texts => list = .list (texts.map tree)) (byteSize text) (splitList text) := by
  have start : (Cursor.start text).In text := ⟨[], rfl, rfl⟩
  rw [OffsetReader.readWhole, splitList]
  apply (yields_standAt start).bind
  apply (follows_readList yields start).bind
  rintro _ _ @⟨_, texts, behind, rfl, behindInside⟩
  have whole := behindInside.offset_add
  cases shape : behind.rest with
  | nil =>
      rw [shape, byteSize_nil] at whole
      have ended : ¬ behind.offset < byteSize text := by omega
      simp only [if_neg ended, shape, List.isEmpty_nil, ↓reduceIte]
      exact follows_pure rfl
  | cons character rest =>
      have positive := character.utf8Size_pos
      rw [shape, byteSize_cons] at whole
      have more : behind.offset < byteSize text := by omega
      simp only [if_pos more, shape, List.isEmpty_cons, Bool.false_eq_true, ↓reduceIte]
      exact follows_fail_here behindInside rfl

end Lists

/-! ## Nested lists -/

/-- A text that is a list has brackets around it. -/
theorem brackets_of_splitList {text : List Char} {texts : List (List Char)}
    (split : splitList text = .ok texts) :
    text.head? = some '[' ∧ text.getLast? = some ']' := by
  obtain ⟨room, spells, -⟩ := spells_of_splitList split
  cases spells with
  | @list run body _ numeral denotes spelled =>
      have shape : '[' :: (run ++ ':' :: (body ++ [']'])) =
          '[' :: (run ++ ':' :: body) ++ [']'] := by
        simp
      refine ⟨rfl, ?_⟩
      rw [shape, List.getLast?_concat]

/-- The failure of a nested reading is passed over, and its record stays. -/
theorem yields_decodeElement (levels : Nat) (text : List Char) :
    (OffsetReader.decodeElement levels text).Yields (decodeElement levels text) := by
  induction levels generalizing text with
  | zero => exact yields_pure _
  | succ levels inductionHypothesis =>
      have nested := follows_readWhole inductionHypothesis text
      have yields := nested.yields_getD (.text (String.ofList text))
      rw [OffsetReader.decodeElement]
      cases split : splitList text with
      | ok texts =>
          rw [split] at nested
          obtain ⟨list, read, same⟩ := nested.result_of_ok
          rw [read, same] at yields
          rw [if_pos (brackets_of_splitList split), decodeElement_of_ok split]
          exact yields
      | error error =>
          rw [split] at nested
          rw [nested.result_of_error.1] at yields
          rw [decodeElement_of_error split]
          -- Without brackets nothing is read, and nothing is recorded.
          by_cases bracketed : text.head? = some '[' ∧ text.getLast? = some ']'
          · rw [if_pos bracketed]
            exact yields
          · rw [if_neg bracketed]
            exact yields_pure _

/-- A text is read by offsets as it is read by a cursor. Wherever the reader of the text or of
a list in it stands, it is between two characters of its text; so no rest is missing, and
digits are cut off and are a machine word. A failure is at an offset of the text. -/
theorem decode_staysInside (text : String) :
    (OffsetReader.decode text).result = decode text ∧
      (∀ occurrence ∈ (OffsetReader.decode text).record, ∃ part offset,
        occurrence = .stands part offset ∧ offset ≤ byteSize part ∧ IsBorder part offset) ∧
      ∀ error, decode text = .error error →
        ∃ offset, error.offset? = some offset ∧ offset ≤ text.utf8ByteSize := by
  have follows := follows_readWhole (yields_decodeElement maxNesting) text.toList
  rw [← byteSize_toList]
  refine ⟨?_, ?_, ?_⟩
  · cases split : splitList text.toList with
    | ok texts =>
        rw [split] at follows
        obtain ⟨list, read, same⟩ := follows.result_of_ok
        rw [OffsetReader.decode, read, same, decode, decodeChars, decodeWithin_of_ok split]
    | error error =>
        rw [split] at follows
        rw [OffsetReader.decode, follows.result_of_error.1, decode, decodeChars,
          decodeWithin_of_error split]
  · intro occurrence member
    cases follows.sound occurrence member with
    | stands border => exact ⟨_, _, rfl, border.le, border⟩
  · intro error failed
    rw [decode_eq_error_iff.mp failed] at follows
    exact follows.result_of_error.2

end ListInvocation.Wire
