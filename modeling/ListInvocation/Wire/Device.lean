import ListInvocation.Wire.Frame

/-!
Contract: frames and texts on devices that read and write a part at a time.

One read brings the bytes of one chunk at most, and one write accepts a part of what it
is given. Headers are read byte by byte; payloads are read and texts are written by a
library, whole buffers at a time.

Owns: single reads and writes, what a library of whole buffers promises, and the reading
of a frame with them.

Does not own: the session on a device.
-/

namespace ListInvocation.Wire

/-! ## Reading -/

/-- One read of some bytes at most; it brings none at the end of the stream only. -/
def readSome (most : Nat) : List Chunk → Except ReadFailure (List UInt8) × List Chunk
  | [] => (.ok [], [])
  | .bytes [] :: chunks => readSome most chunks
  | .bytes (byte :: bytes) :: chunks =>
      (.ok ((byte :: bytes).take most), .bytes ((byte :: bytes).drop most) :: chunks)
  | .failure cause :: chunks => (.error cause, chunks)

/-- A failed read is taken off the stream. -/
theorem length_lt_of_readSome {most : Nat} {chunks rest : List Chunk} {cause : ReadFailure}
    (failed : readSome most chunks = (.error cause, rest)) : rest.length < chunks.length := by
  fun_induction readSome most chunks with
  | case1 => cases failed
  | case2 chunks inductionHypothesis => exact Nat.lt_succ_of_lt (inductionHypothesis failed)
  | case3 => cases failed
  | case4 =>
      cases failed
      exact Nat.lt_succ_self _

def readByte (interruption : Interruption) (chunks : List Chunk) :
    Except WireError (Option UInt8) × List Chunk :=
  match _ : readSome 1 chunks with
  | (.ok [], rest) => (.ok none, rest)
  | (.ok (byte :: _), rest) => (.ok (some byte), rest)
  | (.error cause, rest) =>
      if cause.kind = .interrupted ∧ interruption = .retried then readByte interruption rest
      else (.error (.stream cause.description), rest)
termination_by chunks.length
decreasing_by exact length_lt_of_readSome ‹_›

/-- The digits of a length that were read so far. -/
structure LengthHeader where
  value : Nat
  digits : Nat
deriving Repr, DecidableEq

/-- Takes one byte of a header: a further digit, or the colon behind a length. -/
def LengthHeader.push (header : LengthHeader) (byte : UInt8) :
    Except WireError (LengthHeader ⊕ Nat) :=
  if byte = 58 ∧ 0 < header.digits then .ok (.inr header.value)
  else
    match FrameReader.digitOf? byte with
    | some digit =>
        if header.digits < maxLengthDigits then
          .ok (.inl ⟨header.value * 10 + digit, header.digits + 1⟩)
        else .error (.invalidLength header.digits)
    | none => .error (.invalidLength header.digits)

/-- A header takes no more digits than a length may have. -/
theorem LengthHeader.lt_of_push {header next : LengthHeader} {byte : UInt8}
    (pushed : header.push byte = .ok (.inl next)) :
    maxLengthDigits - next.digits < maxLengthDigits - header.digits := by
  unfold push at pushed
  split at pushed
  next => cases pushed
  next =>
    split at pushed
    next =>
      split at pushed
      next room =>
        cases pushed
        exact Nat.sub_succ_lt_self _ _ room
      next => cases pushed
    next => cases pushed

/-- Reads the rest of a header whose next byte was read. -/
def readLength (interruption : Interruption) (header : LengthHeader) (byte : UInt8)
    (chunks : List Chunk) : Except WireError Nat × List Chunk :=
  match _ : header.push byte with
  | .error error => (.error error, chunks)
  | .ok (.inr length) => (.ok length, chunks)
  | .ok (.inl next) =>
      match readByte interruption chunks with
      | (.error error, rest) => (.error error, rest)
      | (.ok none, rest) => (.error (.truncated next.digits), rest)
      | (.ok (some byte), rest) => readLength interruption next byte rest
termination_by maxLengthDigits - header.digits
decreasing_by exact LengthHeader.lt_of_push ‹_›

/-- A library's way to fill a buffer from a stream. -/
structure BufferReader where
  /-- Fills a buffer of some length. -/
  readExact : Nat → List Chunk → Except ReadFailure (List UInt8) × List Chunk
  /-- Reading goes forward. -/
  forward : ∀ count chunks, eventsOf (readExact count chunks).2 <:+ eventsOf chunks
  /-- The bytes that fill the buffer are taken, and nothing behind them. -/
  filled : ∀ (chunks : List Chunk) (bytes : List UInt8) (events : List StreamEvent),
    eventsOf chunks = bytes.map StreamEvent.byte ++ events →
      ∃ rest, readExact bytes.length chunks = (.ok bytes, rest) ∧ eventsOf rest = events
  /-- The end of the stream in front of the last byte is a failure of its own kind, in the
  library's own words. -/
  ended : ∀ (chunks : List Chunk) (bytes : List UInt8) (count : Nat),
    eventsOf chunks = bytes.map StreamEvent.byte → bytes.length < count →
      ∃ failure rest, readExact count chunks = (.error failure, rest) ∧
        failure.kind = .unexpectedEnd
  /-- A read that fails in front of the last byte, and was not interrupted, is reported. -/
  failed : ∀ (chunks : List Chunk) (bytes : List UInt8) (cause : ReadFailure)
    (events : List StreamEvent) (count : Nat),
    eventsOf chunks = bytes.map StreamEvent.byte ++ .failure cause :: events →
    bytes.length < count → cause.kind ≠ .interrupted →
      ∃ rest, readExact count chunks = (.error cause, rest)

/-- What a payload of some length that could not be read is reported as. -/
def payloadError (length : Nat) (failure : ReadFailure) : WireError :=
  if failure.kind = .unexpectedEnd then .truncated length else .stream failure.description

def BufferReader.readPayload (reader : BufferReader) (length : Nat) (chunks : List Chunk) :
    Except WireError (Option String) × List Chunk :=
  match reader.readExact length chunks with
  | (.error failure, rest) => (.error (payloadError length failure), rest)
  | (.ok bytes, rest) => ((FrameReader.payloadOf bytes.reverse).map some, rest)

/-- Reads one frame. There is none at the end of the stream. -/
def BufferReader.readFrame (reader : BufferReader) (interruption : Interruption) (limit : Nat)
    (chunks : List Chunk) : Except WireError (Option String) × List Chunk :=
  match readByte interruption chunks with
  | (.error error, rest) => (.error error, rest)
  | (.ok none, rest) => (.ok none, rest)
  | (.ok (some byte), rest) =>
      match readLength interruption ⟨0, 0⟩ byte rest with
      | (.error error, rest) => (.error error, rest)
      | (.ok length, rest) =>
          if limit < length then (.error (.tooLarge length limit), rest)
          else reader.readPayload length rest

/-! ## Writing -/

structure WriteFailure where
  interrupted : Bool
  description : String
deriving Repr, DecidableEq

/-- A way to write to sinks of some kind, a part at a time. A write yields the number of
bytes that it accepted, and the sink as it is afterwards. -/
structure Device (σ : Type) where
  writeSome : List UInt8 → σ → Except WriteFailure Nat × σ
  flush : σ → Except String Unit × σ

/-- A device on which every write accepts something or fails for good. -/
structure Device.Steady {σ : Type} (device : Device σ) : Prop where
  accepts : ∀ {bytes sink count next}, bytes ≠ [] →
    device.writeSome bytes sink = (.ok count, next) → 0 < count
  uninterrupted : ∀ {bytes sink failure next}, bytes ≠ [] →
    device.writeSome bytes sink = (.error failure, next) → failure.interrupted = false

/-- A library's way to write a whole buffer to a device: it writes on until nothing is left
or a write fails. -/
structure BufferWriter {σ : Type} (device : Device σ) where
  writeAll : List UInt8 → σ → Except String Unit × σ
  written : ∀ sink, writeAll [] sink = (.ok (), sink)
  accepted : ∀ bytes sink count next, bytes ≠ [] → 0 < count →
    device.writeSome bytes sink = (.ok count, next) →
      writeAll bytes sink = writeAll (bytes.drop count) next
  refused : ∀ bytes sink failure next, bytes ≠ [] → failure.interrupted = false →
    device.writeSome bytes sink = (.error failure, next) →
      writeAll bytes sink = (.error failure.description, next)

/-- The writer of whole texts. -/
def BufferWriter.writer {σ : Type} {device : Device σ} (buffer : BufferWriter device) :
    Writer σ :=
  ⟨buffer.writeAll, device.flush⟩

/-- A library's way to read and write whole buffers. -/
structure Port {σ : Type} (device : Device σ) extends BufferReader, BufferWriter device

end ListInvocation.Wire
