import ListInvocation.Wire.Frame
import ListInvocation.Proofs.Wire.RoundTrip
import ListInvocation.Proofs.Wire.Stream

/-!
Contract: the bytes of a frame, and what a reader does with one of them.

Owns: the bytes that form a frame, every way to take a byte, and the invariant of a reader
in the middle of a frame.

Does not own: the reading of a whole frame.
-/

namespace ListInvocation.Wire

open ListInvocation.Decimal

/-- Whether some bytes are the frame of a payload: one to nine digits that count the bytes
of the payload, which are no more than a limit, then a colon and the payload. -/
def IsFrame (limit : Nat) (payload : String) (bytes : List UInt8) : Prop :=
  ∃ run, Numeral run ∧ ofDigits run = payload.utf8ByteSize ∧ payload.utf8ByteSize ≤ limit ∧
    bytes = bytesOf (String.ofList run) ++ 58 :: bytesOf payload

/-! ## Digits as bytes -/

def asciiByte (character : Char) : UInt8 :=
  character.val.toUInt8

theorem bytesOf_cons_digit {character : Char} (digit : isDigit character = true)
    (rest : List Char) :
    bytesOf (String.ofList (character :: rest)) =
      asciiByte character :: bytesOf (String.ofList rest) := by
  have single : bytesOf (String.ofList [character]) = [asciiByte character] := by
    rw [bytesOf, String.toUTF8_eq_toByteArray, String.toByteArray_ofList,
      List.utf8Encode_singleton,
      String.utf8EncodeChar_eq_singleton (utf8Size_of_isDigit digit)]
    rfl
  have split : String.ofList (character :: rest) =
      String.ofList [character] ++ String.ofList rest := by
    rw [← String.ofList_append, List.singleton_append]
  rw [split, bytesOf_append, single, List.singleton_append]

theorem isDigit_iff (character : Char) :
    isDigit character = true ↔ 48 ≤ character.val.toNat ∧ character.val.toNat ≤ 57 := by
  simp only [isDigit, Bool.and_eq_true, decide_eq_true_eq]
  rfl

theorem toNat_asciiByte {character : Char} (digit : isDigit character = true) :
    (asciiByte character).toNat = character.val.toNat := by
  have range := (isDigit_iff character).mp digit
  rw [asciiByte, UInt32.toNat_toUInt8]
  omega

theorem digitOf?_asciiByte {character : Char} (digit : isDigit character = true) :
    FrameReader.digitOf? (asciiByte character) = some (digitValue character) := by
  have range := (isDigit_iff character).mp digit
  rw [FrameReader.digitOf?, toNat_asciiByte digit, if_pos range]
  rfl

theorem asciiByte_ne_colon {character : Char} (digit : isDigit character = true) :
    asciiByte character ≠ 58 := by
  have range := (isDigit_iff character).mp digit
  intro same
  have code : (asciiByte character).toNat = 58 := by rw [same]; rfl
  rw [toNat_asciiByte digit] at code
  omega

/-- A byte with a digit's value is the byte of that digit. -/
theorem asciiByte_of_digitOf? {byte : UInt8} {value : Nat}
    (isValue : FrameReader.digitOf? byte = some value) :
    ∃ character, isDigit character = true ∧ asciiByte character = byte ∧
      digitValue character = value := by
  unfold FrameReader.digitOf? at isValue
  split at isValue
  next range =>
    have code : (Char.ofNat byte.toNat).val.toNat = byte.toNat := by
      have valid : byte.toNat.isValidChar := Or.inl (by omega)
      unfold Char.ofNat
      rw [dif_pos valid]
      rfl
    refine ⟨Char.ofNat byte.toNat, ?_, ?_, ?_⟩
    · rw [isDigit_iff, code]
      exact range
    · apply UInt8.toNat_inj.mp
      rw [asciiByte, UInt32.toNat_toUInt8, code]
      omega
    · rw [← Option.some.inj isValue]
      exact congrArg (· - 48) code
  next => contradiction

/-! ## One event -/

namespace FrameReader

/-- What taking a byte can do. -/
inductive Takes (limit : Nat) :
    FrameReader → UInt8 → FrameReader → Option FrameResult → Prop where
  | digit {value count : Nat} {character : Char} :
      isDigit character = true → count < maxLengthDigits →
      Takes limit (.header value count) (asciiByte character)
        (.header (value * 10 + digitValue character) (count + 1)) none
  | announced {value count : Nat} :
      0 < count → 0 < value → value ≤ limit →
      Takes limit (.header value count) 58 (.payload value value []) none
  | nothingAnnounced {count : Nat} :
      0 < count → Takes limit (.header 0 count) 58 start (some (payloadOf []))
  | collected {length missing : Nat} {bytes : List UInt8} {byte : UInt8} :
      1 < missing →
      Takes limit (.payload length missing bytes) byte
        (.payload length (missing - 1) (byte :: bytes)) none
  | completed {length missing : Nat} {bytes : List UInt8} {byte : UInt8} :
      missing ≤ 1 →
      Takes limit (.payload length missing bytes) byte start
        (some (payloadOf (byte :: bytes)))
  | tooLarge {value count : Nat} :
      0 < count → limit < value →
      Takes limit (.header value count) 58 start (some (.error (.tooLarge value limit)))
  | malformed {value count : Nat} {byte : UInt8} :
      ¬ (byte = 58 ∧ 0 < count) →
      (digitOf? byte = none ∨ maxLengthDigits ≤ count) →
      Takes limit (.header value count) byte start (some (.error (.invalidLength count)))

theorem takeByte_takes (limit : Nat) (reader : FrameReader) (byte : UInt8) :
    Takes limit reader byte (reader.takeByte limit byte).1
      (reader.takeByte limit byte).2 := by
  cases reader with
  | header value count =>
      by_cases colon : byte = 58 ∧ 0 < count
      · obtain ⟨isColon, positive⟩ := colon
        subst isColon
        by_cases tooLarge : limit < value
        · simp only [takeByte, announce, positive, tooLarge, and_self, if_true]
          exact .tooLarge positive tooLarge
        · by_cases empty : value = 0
          · subst empty
            simp only [takeByte, announce, positive, Nat.not_lt_zero, and_self, if_true, if_false]
            exact .nothingAnnounced positive
          · simp only [takeByte, announce, positive, tooLarge, empty, and_self, if_true, if_false]
            exact .announced positive (Nat.pos_of_ne_zero empty) (Nat.le_of_not_lt tooLarge)
      · cases isDigit? : digitOf? byte with
        | none =>
            simp only [takeByte, if_neg colon, isDigit?]
            exact .malformed colon (.inl isDigit?)
        | some digit =>
            obtain ⟨character, digits, sameByte, sameValue⟩ := asciiByte_of_digitOf? isDigit?
            by_cases room : count < maxLengthDigits
            · simp only [takeByte, if_neg colon, isDigit?, if_pos room]
              rw [← sameByte, ← sameValue]
              exact .digit digits room
            · simp only [takeByte, if_neg colon, isDigit?, if_neg room]
              exact .malformed colon (.inr (Nat.le_of_not_lt room))
  | payload length missing bytes =>
      by_cases last : missing ≤ 1
      · simp only [takeByte, if_pos last]
        exact .completed last
      · simp only [takeByte, if_neg last]
        exact .collected (Nat.lt_of_not_le last)

/-- A read that fails and is not tried again ends the frame. -/
theorem step_failure {cause : ReadFailure} (lasting : (StreamEvent.failure cause).isLasting = true)
    (interruption : Interruption) (limit : Nat) (reader : FrameReader) :
    ∃ error, reader.step interruption limit (.failure cause) =
      (start, some (.error error)) := by
  have notInterrupted : cause.kind ≠ .interrupted := of_decide_eq_true lasting
  cases reader with
  | header value count =>
      exact ⟨_, if_neg fun both => notInterrupted both.1⟩
  | payload length missing bytes =>
      cases kind : cause.kind with
      | interrupted => exact absurd kind notInterrupted
      | unexpectedEnd => exact ⟨_, by simp only [step, meetFailure, kind]; rfl⟩
      | other => exact ⟨_, by simp only [step, meetFailure, kind]; rfl⟩

/-- An interrupted read that is tried again leaves the reader as it is. -/
theorem step_interrupted (reader : FrameReader) (limit : Nat) {event : StreamEvent}
    (notLasting : ¬ event.isLasting = true) :
    reader.step .retried limit event = (reader, none) := by
  cases event with
  | byte byte => exact absurd rfl notLasting
  | failure cause =>
      have interrupted : cause.kind = .interrupted := by
        simpa [StreamEvent.isLasting] using notLasting
      cases reader <;> simp [step, meetFailure, interrupted]

/-- A payload or a failure leaves the reader before the next frame. -/
theorem Takes.next_eq_start {limit : Nat} {reader next : FrameReader} {byte : UInt8}
    {result : FrameResult} (takes : Takes limit reader byte next (some result)) :
    next = start := by
  cases takes <;> rfl

/-- In the middle of a frame the stream must not end. -/
theorem Takes.midway {limit : Nat} {reader next : FrameReader} {byte : UInt8}
    (takes : Takes limit reader byte next none) : ∃ error, next.atEnd = some error := by
  cases takes <;> exact ⟨_, rfl⟩

theorem takes_of_takeByte {limit : Nat} {reader next : FrameReader} {byte : UInt8}
    {result? : Option FrameResult} (taken : reader.takeByte limit byte = (next, result?)) :
    Takes limit reader byte next result? := by
  have takes := takeByte_takes limit reader byte
  rwa [taken] at takes

theorem step_eq_start {interruption : Interruption} {limit : Nat}
    {reader next : FrameReader} {event : StreamEvent} {result : FrameResult}
    (stepped : reader.step interruption limit event = (next, some result)) :
    next = start := by
  cases event with
  | byte byte => exact (takes_of_takeByte stepped).next_eq_start
  | failure cause =>
      by_cases lasting : (StreamEvent.failure cause).isLasting = true
      · obtain ⟨error, failed⟩ := step_failure lasting interruption limit reader
        rw [failed] at stepped
        exact (congrArg Prod.fst stepped).symm
      · have interrupted : cause.kind = .interrupted := by
          simpa [StreamEvent.isLasting] using lasting
        cases reader with
        | header value count =>
            simp only [step, meetFailure] at stepped
            split at stepped
            · cases stepped
            · exact (congrArg Prod.fst stepped).symm
        | payload length missing bytes =>
            simp only [step, meetFailure, interrupted] at stepped
            cases stepped

/-! ## The bytes of an unfinished frame -/

/-- Whether some bytes of a frame leave a reader as it is. -/
def Took (limit : Nat) : FrameReader → List UInt8 → Prop
  | .header value count, taken =>
      ∃ run, (∀ character ∈ run, isDigit character = true) ∧ run.length = count ∧
        count ≤ maxLengthDigits ∧ ofDigits run = value ∧ taken = bytesOf (String.ofList run)
  | .payload length missing bytes, taken =>
      ∃ run, Numeral run ∧ ofDigits run = length ∧ length ≤ limit ∧ 0 < missing ∧
        bytes.length + missing = length ∧
        taken = bytesOf (String.ofList run) ++ 58 :: bytes.reverse

theorem took_start (limit : Nat) : start.Took limit [] :=
  ⟨[], nofun, rfl, Nat.zero_le _, rfl, rfl⟩

theorem ofDigits_concat (run : List Char) (character : Char) :
    ofDigits (run ++ [character]) = ofDigits run * 10 + digitValue character := by
  rw [ofDigits, List.foldl_append]
  rfl

theorem Took.header_numeral {limit value count : Nat} {taken : List UInt8}
    (took : (FrameReader.header value count).Took limit taken) (positive : 0 < count) :
    ∃ run, Numeral run ∧ ofDigits run = value ∧ taken = bytesOf (String.ofList run) := by
  obtain ⟨run, digits, length, short, denotes, spelled⟩ := took
  subst length
  exact ⟨run, ⟨positive, short, digits⟩, denotes, spelled⟩

/-- Payload bytes of the announced number complete a frame. -/
theorem isFrame_of_payloadOf {limit length : Nat} {run : List Char} {bytes : List UInt8}
    {payload : String} (numeral : Numeral run) (denotes : ofDigits run = length)
    (allowed : length ≤ limit) (counted : bytes.length = length)
    (read : payloadOf bytes = .ok payload) :
    IsFrame limit payload (bytesOf (String.ofList run) ++ 58 :: bytes.reverse) := by
  have spelled : bytes.reverse = bytesOf payload := by
    unfold payloadOf at read
    split at read
    next text found =>
      rw [← Except.ok.inj read]
      exact textOf?_eq_some_iff.mp found
    next => contradiction
  have size : payload.utf8ByteSize = length := by
    rw [← length_bytesOf, ← spelled, List.length_reverse, counted]
  subst size
  exact ⟨run, numeral, denotes, allowed, by rw [spelled]⟩

/-- Every byte either extends what was taken or completes a frame. -/
theorem Took.takes {limit : Nat} {reader next : FrameReader} {taken : List UInt8}
    {byte : UInt8} {result? : Option FrameResult} (took : reader.Took limit taken)
    (takes : Takes limit reader byte next result?) :
    (result? = none → next.Took limit (taken ++ [byte])) ∧
    (∀ payload, result? = some (.ok payload) → IsFrame limit payload (taken ++ [byte])) := by
  cases takes with
  | @digit value count character isDigit room =>
      refine ⟨fun _ => ?_, nofun⟩
      obtain ⟨run, digits, length, _, denotes, spelled⟩ := took
      refine ⟨run ++ [character], ?_, ?_, room, ?_, ?_⟩
      · intro other member
        rcases List.mem_append.mp member with inRun | last
        · exact digits other inRun
        · rw [List.mem_singleton.mp last]
          exact isDigit
      · rw [List.length_append, length, List.length_singleton]
      · rw [ofDigits_concat, denotes]
      · rw [spelled, String.ofList_append, bytesOf_append, bytesOf_cons_digit isDigit []]
        rfl
  | @announced value count positive nonempty allowed =>
      refine ⟨fun _ => ?_, nofun⟩
      obtain ⟨run, numeral, denotes, spelled⟩ := took.header_numeral positive
      exact ⟨run, numeral, denotes, allowed, nonempty, Nat.zero_add value, by rw [spelled]; rfl⟩
  | @nothingAnnounced count positive =>
      refine ⟨nofun, fun payload read => ?_⟩
      obtain ⟨run, numeral, denotes, spelled⟩ := took.header_numeral positive
      have framed := isFrame_of_payloadOf numeral denotes (Nat.zero_le limit) rfl
        (Option.some.inj read)
      rwa [spelled]
  | @collected length missing bytes byte more =>
      refine ⟨fun _ => ?_, nofun⟩
      obtain ⟨run, numeral, denotes, allowed, _, counted, spelled⟩ := took
      refine ⟨run, numeral, denotes, allowed, by omega, ?_, ?_⟩
      · rw [List.length_cons]
        omega
      · rw [spelled, List.reverse_cons, List.append_assoc, List.cons_append]
  | @completed length missing bytes byte last =>
      refine ⟨nofun, fun payload read => ?_⟩
      obtain ⟨run, numeral, denotes, allowed, positive, counted, spelled⟩ := took
      have whole : (byte :: bytes).length = length := by
        rw [List.length_cons]
        omega
      have framed := isFrame_of_payloadOf numeral denotes allowed whole (Option.some.inj read)
      rwa [List.reverse_cons, ← List.cons_append, ← List.append_assoc, ← spelled] at framed
  | tooLarge _ _ => exact ⟨nofun, nofun⟩
  | malformed _ _ => exact ⟨nofun, nofun⟩

end FrameReader

end ListInvocation.Wire
