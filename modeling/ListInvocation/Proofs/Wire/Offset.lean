import ListInvocation.Wire.List
import ListInvocation.Decimal.Scientific
import ListInvocation.Proofs.Text.Bytes

/-!
Contract: lists read by offsets, and that no offset leaves the text.

A reader can keep the whole text and the number of bytes that it has passed, and look up the
rest whenever it needs it. Such a look-up has an answer only where the offset is between two
characters of the text, and each reader of a nested list has a text of its own.

Owns: the reader by offsets, a record of where it stands and of the look-ups that have no
answer, its agreement with `decode`, and the offsets in its record and in failures.

Does not own: which texts are lists.
-/

namespace ListInvocation.Wire

open ListInvocation.Text ListInvocation.Decimal

/-! ## Records -/

/-- What is recorded of a reader. -/
inductive Occurrence where
  /-- The reader of a text stands behind so many of its bytes. -/
  | stands (text : List Char) (offset : Nat)
  /-- A text has no rest behind an offset, and the empty text is taken for it. -/
  | restMissing (text : List Char) (offset : Nat)
  /-- So many bytes in front of a text, all of them digits, cannot be cut off. -/
  | runMissing (text : List Char) (size : Nat)
  /-- A run of digits is no number of a machine word. -/
  | numberMissing (run : List Char)

/-- A computation that can fail, with what is recorded of it, also up to a failure. -/
structure Recorded (α : Type) where
  result : Except WireError α
  record : List Occurrence

namespace Recorded

variable {α β : Type}

instance : Monad Recorded where
  pure value := ⟨.ok value, []⟩
  bind first next :=
    match first.result with
    | .ok value => ⟨(next value).result, first.record ++ (next value).record⟩
    | .error error => ⟨.error error, first.record⟩

/-- Fails without a record. -/
def fail (error : WireError) : Recorded α := ⟨.error error, []⟩

/-- Goes on with a value in place of a failure; the record stays. -/
def getD (recorded : Recorded α) (default : α) : Recorded α :=
  ⟨.ok (recorded.result.toOption.getD default), recorded.record⟩

end Recorded

/-! ## Reading by offsets -/

/-- So many bytes of a text behind an offset; none unless they begin and end between
characters. -/
def slice? (offset size : Nat) (text : List Char) : Option (List Char) := do
  let (_, rest) ← splitAtByte offset text
  let (part, _) ← splitAtByte size rest
  return part

def isDigitByte (byte : UInt8) : Bool :=
  48 ≤ byte.toNat && byte.toNat ≤ 57

/-- The number of bytes in front of the first one that is no digit. -/
def leadingDigitBytes (text : List Char) : Nat :=
  ((text.flatMap String.utf8EncodeChar).takeWhile isDigitByte).length

/-- The number of values of a machine word. -/
def wordValues : Nat := 18446744073709551616

/-- The machine word that a text denotes: digits, at least one, with an optional plus. -/
def readWord? (text : List Char) : Option Nat :=
  let (negative, run) := splitSign text
  if negative || run.isEmpty || !run.all isDigit || wordValues ≤ ofDigits run then none
  else some (ofDigits run)

/-- A reader that knows its text and how many bytes of it are passed. -/
structure OffsetReader where
  text : List Char
  offset : Nat

namespace OffsetReader

def standAt (text : List Char) (offset : Nat) : Recorded OffsetReader :=
  ⟨.ok ⟨text, offset⟩, [.stands text offset]⟩

/-- The text that is still ahead, or the empty text where the offset has no rest. -/
def rest (reader : OffsetReader) : Recorded (List Char) :=
  match splitAtByte reader.offset reader.text with
  | some (_, rest) => pure rest
  | none => ⟨.ok [], [.restMissing reader.text reader.offset]⟩

def expect (delimiter : Char) (reader : OffsetReader) : Recorded OffsetReader := do
  match ← reader.rest with
  | [] => .fail (.truncated reader.offset)
  | character :: _ =>
      if character = delimiter then
        standAt reader.text (reader.offset + delimiter.utf8Size)
      else
        .fail (.missingDelimiter delimiter reader.offset)

/-- The number that the first bytes of a text denote. -/
def number (size : Nat) (text : List Char) (reader : OffsetReader) : Recorded Nat :=
  match slice? 0 size text with
  | none => ⟨.error (.invalidLength reader.offset), [.runMissing text size]⟩
  | some run =>
      match readWord? run with
      | none => ⟨.error (.invalidLength reader.offset), [.numberMissing run]⟩
      | some number => pure number

def readLength (reader : OffsetReader) : Recorded (Nat × OffsetReader) := do
  let rest ← reader.rest
  let size := leadingDigitBytes rest
  if size = 0 ∨ maxLengthDigits < size then
    .fail (.invalidLength reader.offset)
  else
    let length ← reader.number size rest
    let reader ← standAt reader.text (reader.offset + size)
    let reader ← reader.expect ':'
    return (length, reader)

/-- Passes exactly `length` bytes of text. -/
def take (length : Nat) (reader : OffsetReader) : Recorded (List Char × OffsetReader) :=
  if byteSize reader.text < reader.offset + length then
    .fail (.truncated (byteSize reader.text))
  else
    match slice? reader.offset length reader.text with
    | none => .fail (.invalidLength reader.offset)
    | some text => do
        let reader ← standAt reader.text (reader.offset + length)
        return (text, reader)

def readElement (reader : OffsetReader) : Recorded (List Char × OffsetReader) := do
  let (length, reader) ← reader.readLength
  let (text, reader) ← reader.take length
  let reader ← reader.expect ':'
  return (text, reader)

section Nested

variable (element : List Char → Recorded (Tree String))

/-- Reads `count` elements, each as a tree as soon as its text is read. -/
def readElements : Nat → OffsetReader → Recorded (List (Tree String) × OffsetReader)
  | 0, reader => pure ([], reader)
  | count + 1, reader => do
      let (text, reader) ← reader.readElement
      let tree ← element text
      let (trees, reader) ← readElements count reader
      return (tree :: trees, reader)

def readList (reader : OffsetReader) : Recorded (Tree String × OffsetReader) := do
  let reader ← reader.expect '['
  let (count, reader) ← reader.readLength
  let rest ← reader.rest
  if byteSize rest / minElementBytes < count then
    .fail (.invalidLength reader.offset)
  else
    let (trees, reader) ← readElements element count reader
    let reader ← reader.expect ']'
    return (.list trees, reader)

def readWhole (text : List Char) : Recorded (Tree String) := do
  let reader ← standAt text 0
  let (tree, reader) ← readList element reader
  if reader.offset < byteSize text then
    .fail (.trailingData reader.offset)
  else
    return tree

end Nested

/-- Reads an element as a nested list when it has the brackets of one, a level is left and
the reading does not fail. -/
def decodeElement : (levels : Nat) → (text : List Char) → Recorded (Tree String)
  | 0, text => pure (.text (String.ofList text))
  | levels + 1, text =>
      if text.head? = some '[' ∧ text.getLast? = some ']' then
        (readWhole (decodeElement levels) text).getD (.text (String.ofList text))
      else
        pure (.text (String.ofList text))

/-- Reads a wire text that is exactly one list. -/
def decode (text : String) : Recorded (Tree String) :=
  readWhole (decodeElement maxNesting) text.toList

end OffsetReader

/-! ## Agreement of a record with a plain computation -/

/-- An offset is between two characters of a text, or at one of its ends. -/
def IsBorder (text : List Char) (offset : Nat) : Prop :=
  ∃ front rest, text = front ++ rest ∧ byteSize front = offset

theorem IsBorder.le {text : List Char} {offset : Nat} (border : IsBorder text offset) :
    offset ≤ byteSize text := by
  obtain ⟨front, rest, rfl, rfl⟩ := border
  simp

def WireError.offset? : WireError → Option Nat
  | .invalidLength offset | .truncated offset | .missingDelimiter _ offset
  | .trailingData offset => some offset
  | .stream _ | .tooLarge _ _ | .invalidUtf8 => none

/-- An occurrence that shows a reader between two characters of its text. -/
inductive Occurrence.Sound : Occurrence → Prop where
  | stands {text : List Char} {offset : Nat} :
      IsBorder text offset → Sound (.stands text offset)

namespace Recorded

variable {α β γ δ : Type} {size : Nat}

/-- Two computations end alike: with values that agree, or with one failure at an offset up
to a size. -/
inductive EndsLike (agree : α → β → Prop) (size : Nat) :
    Except WireError α → Except WireError β → Prop where
  | ok {value : α} {other : β} : agree value other → EndsLike agree size (.ok value) (.ok other)
  | error {error : WireError} {offset : Nat} :
      error.offset? = some offset → offset ≤ size →
      EndsLike agree size (.error error) (.error error)

/-- A recorded computation has a sound record, and ends like a plain one. -/
structure Follows (agree : α → β → Prop) (size : Nat) (recorded : Recorded α)
    (plain : Except WireError β) : Prop where
  sound : ∀ occurrence ∈ recorded.record, occurrence.Sound
  ends : EndsLike agree size recorded.result plain

/-- A recorded computation has a sound record and yields a value. -/
structure Yields (recorded : Recorded α) (value : α) : Prop where
  result : recorded.result = .ok value
  sound : ∀ occurrence ∈ recorded.record, occurrence.Sound

theorem bind_of_ok {first : Recorded α} {value : α} (succeeded : first.result = .ok value)
    (next : α → Recorded β) :
    first >>= next = ⟨(next value).result, first.record ++ (next value).record⟩ := by
  simp only [bind, succeeded]

theorem bind_of_error {first : Recorded α} {error : WireError}
    (failed : first.result = .error error) (next : α → Recorded β) :
    first >>= next = ⟨.error error, first.record⟩ := by
  simp only [bind, failed]

theorem pure_bind (value : α) (next : α → Recorded β) :
    (pure value : Recorded α) >>= next = next value := rfl

variable {agree : α → β → Prop} {agreeNext : γ → δ → Prop}

theorem yields_pure (value : α) : (pure value : Recorded α).Yields value := ⟨rfl, nofun⟩

theorem Yields.follows {recorded : Recorded α} {value : α} (yields : recorded.Yields value)
    {other : β} (agrees : agree value other) : Follows agree size recorded (.ok other) := by
  refine ⟨yields.sound, ?_⟩
  rw [yields.result]
  exact .ok agrees

theorem follows_pure {value : α} {other : β} (agrees : agree value other) :
    Follows agree size (pure value) (.ok other) :=
  ⟨nofun, .ok agrees⟩

theorem follows_fail {error : WireError} {offset : Nat} (located : error.offset? = some offset)
    (inside : offset ≤ size) : Follows agree size (fail error) (.error error) :=
  ⟨nofun, .error located inside⟩

/-- A step that yields a value has no plain counterpart. -/
theorem Yields.bind {first : Recorded γ} {value : γ} (yields : first.Yields value)
    {next : γ → Recorded α} {plain : Except WireError β}
    (follows : Follows agree size (next value) plain) :
    Follows agree size (first >>= next) plain := by
  rw [bind_of_ok yields.result]
  refine ⟨?_, follows.ends⟩
  intro occurrence member
  rcases List.mem_append.mp member with here | later
  · exact yields.sound occurrence here
  · exact follows.sound occurrence later

theorem Follows.bind {first : Recorded α} {plain : Except WireError β}
    (follows : Follows agree size first plain) {next : α → Recorded γ}
    {plainNext : β → Except WireError δ}
    (nextFollows : ∀ value other, agree value other →
      Follows agreeNext size (next value) (plainNext other)) :
    Follows agreeNext size (first >>= next) (plain >>= plainNext) := by
  obtain ⟨sound, ends⟩ := follows
  cases firstEnds : first.result with
  | error error =>
      rw [firstEnds] at ends
      rw [bind_of_error firstEnds]
      cases ends with
      | error located inside => exact ⟨sound, .error located inside⟩
  | ok value =>
      rw [firstEnds] at ends
      cases ends with
      | ok agrees =>
          have yields : first.Yields value := ⟨firstEnds, sound⟩
          exact yields.bind (nextFollows _ _ agrees)

theorem Follows.result_of_ok {recorded : Recorded α} {other : β}
    (follows : Follows agree size recorded (.ok other)) :
    ∃ value, recorded.result = .ok value ∧ agree value other := by
  cases ends : recorded.result with
  | error error => exact absurd (ends ▸ follows.ends) nofun
  | ok value =>
      cases ends ▸ follows.ends with
      | ok agrees => exact ⟨value, rfl, agrees⟩

theorem Follows.result_of_error {recorded : Recorded α} {error : WireError}
    (follows : Follows agree size recorded (.error error)) :
    recorded.result = .error error ∧
      ∃ offset, error.offset? = some offset ∧ offset ≤ size := by
  cases ends : recorded.result with
  | ok value => exact absurd (ends ▸ follows.ends) nofun
  | error cause =>
      cases ends ▸ follows.ends with
      | error located inside => exact ⟨rfl, _, located, inside⟩

/-- With a value in place of its failure a computation yields a value. -/
theorem Follows.yields_getD {recorded : Recorded α} {plain : Except WireError β}
    (follows : Follows agree size recorded plain) (default : α) :
    (recorded.getD default).Yields (recorded.result.toOption.getD default) :=
  ⟨rfl, follows.sound⟩

end Recorded

end ListInvocation.Wire
