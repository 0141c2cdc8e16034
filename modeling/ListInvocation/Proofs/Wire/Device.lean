import ListInvocation.Wire.Device
import ListInvocation.Proofs.Wire.Frame

/-!
Contract: on a device the same frames are read and the same bytes written as on a stream
of events and a sink of whole texts.

Owns: single reads and single bytes told by events, a frame read from chunks, and the one
outcome of writing a buffer.

Does not own: sessions.
-/

namespace ListInvocation.Wire

/-! ## Single reads -/

theorem eventsOf_bytes_cons (bytes : List UInt8) (chunks : List Chunk) :
    eventsOf (.bytes bytes :: chunks) = bytes.map StreamEvent.byte ++ eventsOf chunks := rfl

/-- What one read took off a stream. -/
def takenBy : Except ReadFailure (List UInt8) → List StreamEvent
  | .ok bytes => bytes.map StreamEvent.byte
  | .error cause => [.failure cause]

/-- One read takes its result off the front of a stream: no more bytes than it may, and none at
the end of the stream only. -/
theorem eventsOf_readSome (most : Nat) (chunks : List Chunk) :
    eventsOf chunks =
        takenBy (readSome most chunks).1 ++ eventsOf (readSome most chunks).2 ∧
      (∀ bytes, (readSome most chunks).1 = .ok bytes → bytes.length ≤ most) ∧
      (0 < most → (readSome most chunks).1 = .ok [] → eventsOf chunks = []) := by
  fun_induction readSome most chunks with
  | case1 => exact ⟨rfl, fun bytes read => by cases read; exact Nat.zero_le most, fun _ _ => rfl⟩
  | case2 chunks inductionHypothesis => exact inductionHypothesis
  | case3 byte bytes chunks =>
      refine ⟨?_, fun taken read => ?_, fun positive read => ?_⟩
      · rw [takenBy, eventsOf_bytes_cons, eventsOf_bytes_cons, ← List.append_assoc,
          ← List.map_append, List.take_append_drop]
      · cases read
        exact List.length_take_le most _
      · obtain ⟨count, rfl⟩ := Nat.exists_eq_add_one.mpr positive
        cases read
  | case4 cause chunks =>
      refine ⟨rfl, fun bytes read => ?_, fun _ read => ?_⟩
      · cases read
      · cases read

theorem readSome_suffix (most : Nat) (chunks : List Chunk) :
    eventsOf (readSome most chunks).2 <:+ eventsOf chunks :=
  ⟨_, (eventsOf_readSome most chunks).1.symm⟩

/-! ## Single bytes -/

theorem readByte_nil (interruption : Interruption) : readByte interruption [] = (.ok none, []) := by
  rw [readByte]
  rfl

theorem readByte_empty_cons (interruption : Interruption) (chunks : List Chunk) :
    readByte interruption (.bytes [] :: chunks) = readByte interruption chunks := by
  rw [readByte, readByte]
  rfl

theorem readByte_bytes_cons (interruption : Interruption) (byte : UInt8) (bytes : List UInt8)
    (chunks : List Chunk) :
    readByte interruption (.bytes (byte :: bytes) :: chunks) =
      (.ok (some byte), .bytes bytes :: chunks) := by
  rw [readByte]
  rfl

theorem readByte_failure_cons (interruption : Interruption) (cause : ReadFailure)
    (chunks : List Chunk) :
    readByte interruption (.failure cause :: chunks) =
      if cause.kind = .interrupted ∧ interruption = .retried then readByte interruption chunks
      else (.error (.stream cause.description), chunks) := by
  rw [readByte]
  rfl

/-- The next byte of a header, told by events. -/
def nextByte (interruption : Interruption) :
    List StreamEvent → Except WireError (Option UInt8) × List StreamEvent
  | [] => (.ok none, [])
  | .byte byte :: events => (.ok (some byte), events)
  | .failure cause :: events =>
      if cause.kind = .interrupted ∧ interruption = .retried then nextByte interruption events
      else (.error (.stream cause.description), events)

/-- Borders of chunks play no part in the reading of a byte. -/
theorem nextByte_eventsOf (interruption : Interruption) (chunks : List Chunk) :
    nextByte interruption (eventsOf chunks) =
      ((readByte interruption chunks).1, eventsOf (readByte interruption chunks).2) := by
  induction chunks with
  | nil =>
      rw [readByte_nil]
      rfl
  | cons chunk chunks inductionHypothesis =>
      cases chunk with
      | bytes bytes =>
          cases bytes with
          | nil =>
              rw [readByte_empty_cons]
              exact inductionHypothesis
          | cons byte bytes =>
              rw [readByte_bytes_cons]
              rfl
      | failure cause =>
          rw [readByte_failure_cons]
          by_cases retried : cause.kind = .interrupted ∧ interruption = .retried
          · rw [if_pos retried, ← inductionHypothesis]
            exact if_pos retried
          · rw [if_neg retried]
            exact if_neg retried

/-- There is no next byte at the end of the stream only. -/
theorem eq_nil_of_nextByte {interruption : Interruption} {events rest : List StreamEvent}
    (next : nextByte interruption events = (.ok none, rest)) : rest = [] := by
  fun_induction nextByte interruption events with
  | case1 => exact (congrArg Prod.snd next).symm
  | case2 => cases next
  | case3 _ _ _ inductionHypothesis => exact inductionHypothesis next
  | case4 => cases next

theorem nextByte_visible (interruption : Interruption) (events : List StreamEvent) :
    nextByte interruption (visible interruption events) =
      ((nextByte interruption events).1,
        visible interruption (nextByte interruption events).2) := by
  fun_induction nextByte interruption events with
  | case1 => simp [nextByte]
  | case2 => simp [nextByte]
  | case3 cause events retried inductionHypothesis =>
      rw [visible_failure, if_pos retried]
      exact inductionHypothesis
  | case4 cause events lasting => simp [visible_failure, nextByte, lasting]

/-- Behind a byte that was read there are bytes, where there is nothing else. -/
theorem exists_bytes_of_nextByte {interruption : Interruption} {bytes : List UInt8}
    {byte? : Option UInt8} {rest : List StreamEvent}
    (next : nextByte interruption (bytes.map StreamEvent.byte) = (.ok byte?, rest)) :
    ∃ others : List UInt8, rest = others.map StreamEvent.byte := by
  cases bytes with
  | nil => exact ⟨[], (congrArg Prod.snd next).symm⟩
  | cons byte bytes => exact ⟨bytes, (congrArg Prod.snd next).symm⟩

theorem nextByte_suffix (interruption : Interruption) (events : List StreamEvent) :
    (nextByte interruption events).2 <:+ events := by
  fun_induction nextByte interruption events with
  | case1 => exact List.suffix_refl []
  | case2 byte events => exact List.suffix_cons _ events
  | case3 cause events _ inductionHypothesis =>
      exact inductionHypothesis.trans (List.suffix_cons _ events)
  | case4 cause events => exact List.suffix_cons _ events

/-- A byte that was read is taken off the stream. -/
theorem length_lt_of_nextByte {interruption : Interruption} {events rest : List StreamEvent}
    {byte : UInt8} (next : nextByte interruption events = (.ok (some byte), rest)) :
    rest.length < events.length := by
  fun_induction nextByte interruption events with
  | case1 => cases next
  | case2 =>
      cases next
      exact Nat.lt_succ_self _
  | case3 _ _ _ inductionHypothesis => exact Nat.lt_succ_of_lt (inductionHypothesis next)
  | case4 => cases next

theorem readByte_suffix (interruption : Interruption) (chunks : List Chunk) :
    eventsOf (readByte interruption chunks).2 <:+ eventsOf chunks := by
  have suffix := nextByte_suffix interruption (eventsOf chunks)
  rwa [nextByte_eventsOf] at suffix

theorem readLength_suffix (interruption : Interruption) (header : LengthHeader) (byte : UInt8)
    (chunks : List Chunk) :
    eventsOf (readLength interruption header byte chunks).2 <:+ eventsOf chunks := by
  fun_induction readLength interruption header byte chunks with
  | case1 | case2 => exact List.suffix_refl _
  | case3 _ _ chunks _ _ _ _ read | case4 _ _ chunks _ _ _ read =>
      have suffix := readByte_suffix interruption chunks
      rwa [read] at suffix
  | case5 _ _ chunks _ _ _ _ read inductionHypothesis =>
      have suffix := readByte_suffix interruption chunks
      rw [read] at suffix
      exact inductionHypothesis.trans suffix

/-! ## Headers -/

/-- In a header a reader waits for the next byte. -/
theorem FrameReader.read_header (interruption : Interruption) (limit value digits : Nat)
    (events : List StreamEvent) :
    (FrameReader.header value digits).read interruption limit events =
      match nextByte interruption events with
      | (.ok none, _) => (FrameReader.header value digits).read interruption limit []
      | (.ok (some byte), rest) =>
          (FrameReader.header value digits).read interruption limit (.byte byte :: rest)
      | (.error error, rest) => (.error error, rest) := by
  fun_induction nextByte interruption events with
  | case1 => rfl
  | case2 => rfl
  | case3 cause events retried inductionHypothesis =>
      rw [← inductionHypothesis]
      simp only [read, step, meetFailure, if_pos retried]
  | case4 cause events reported => simp only [read, step, meetFailure, if_neg reported]

theorem takeByte_header (limit : Nat) (header : LengthHeader) (byte : UInt8) :
    (FrameReader.header header.value header.digits).takeByte limit byte =
      match header.push byte with
      | .ok (.inl next) => (.header next.value next.digits, none)
      | .ok (.inr length) => FrameReader.announce limit length
      | .error error => (.start, some (.error error)) := by
  unfold FrameReader.takeByte LengthHeader.push
  by_cases colon : byte = 58 ∧ 0 < header.digits
  · simp only [if_pos colon]
  · simp only [if_neg colon]
    cases FrameReader.digitOf? byte with
    | none => rfl
    | some digit =>
        by_cases room : header.digits < maxLengthDigits
        · simp only [if_pos room]
        · simp only [if_neg room]

/-- What a reader does with a byte of a header. -/
theorem read_push (interruption : Interruption) (limit : Nat) (header : LengthHeader)
    (byte : UInt8) (events : List StreamEvent) :
    (FrameReader.header header.value header.digits).read interruption limit
        (.byte byte :: events) =
      match header.push byte with
      | .ok (.inl next) =>
          (FrameReader.header next.value next.digits).read interruption limit events
      | .ok (.inr length) => readAnnounced interruption limit length events
      | .error error => (.error error, events) := by
  have taken := takeByte_header limit header byte
  cases pushed : header.push byte with
  | error error =>
      rw [pushed] at taken
      exact FrameReader.read_lastByte taken events
  | ok step =>
      cases step with
      | inl next =>
          rw [pushed] at taken
          exact FrameReader.read_byte taken events
      | inr length =>
          simp only [pushed] at taken
          simp only [readAnnounced]
          cases announced : FrameReader.announce limit length with
          | mk reader result? =>
              rw [announced] at taken
              cases result? with
              | none => exact FrameReader.read_byte taken events
              | some result => exact FrameReader.read_lastByte taken events

/-- A header goes on with a digit, where there is room for it. -/
theorem LengthHeader.eq_of_push {header next : LengthHeader} {byte : UInt8}
    (pushed : header.push byte = .ok (.inl next)) :
    ∃ digit ≤ 9, header.digits < maxLengthDigits ∧
      next = ⟨header.value * 10 + digit, header.digits + 1⟩ := by
  unfold push at pushed
  split at pushed
  next => cases pushed
  next =>
    split at pushed
    next digit isDigit =>
      split at pushed
      next room =>
        cases pushed
        refine ⟨digit, ?_, room, rfl⟩
        unfold FrameReader.digitOf? at isDigit
        split at isDigit
        next range =>
          cases isDigit
          omega
        next => cases isDigit
      next => cases pushed
    next => cases pushed

/-- A header that is read byte by byte is the header of the frame. -/
theorem read_readLength (interruption : Interruption) (limit : Nat) (header : LengthHeader)
    (byte : UInt8) (chunks : List Chunk) :
    match readLength interruption header byte chunks with
    | (.error error, rest) =>
        (FrameReader.header header.value header.digits).read interruption limit
          (.byte byte :: eventsOf chunks) = (.error error, eventsOf rest)
    | (.ok length, rest) =>
        (FrameReader.header header.value header.digits).read interruption limit
          (.byte byte :: eventsOf chunks) =
            readAnnounced interruption limit length (eventsOf rest) := by
  fun_induction readLength interruption header byte chunks with
  | case1 header byte chunks error pushed => rw [read_push, pushed]
  | case2 header byte chunks length pushed => rw [read_push, pushed]
  | case3 header byte chunks next pushed error rest read =>
      simp only [read_push, pushed]
      rw [FrameReader.read_header, nextByte_eventsOf, read]
  | case4 header byte chunks next pushed rest read =>
      simp only [read_push, pushed]
      have told := nextByte_eventsOf interruption chunks
      rw [read] at told
      rw [FrameReader.read_header, told, eq_nil_of_nextByte told]
      obtain ⟨_, _, _, further⟩ := LengthHeader.eq_of_push pushed
      rw [further]
      rfl
  | case5 header byte chunks next pushed other rest read inductionHypothesis =>
      simp only [read_push, pushed]
      rw [FrameReader.read_header, nextByte_eventsOf, read]
      exact inductionHypothesis

/-! ## Payloads -/

/-- How an uninterrupted stream serves a buffer of some length. -/
inductive Serves (length : Nat) : List StreamEvent → Prop where
  | whole (bytes : List UInt8) (events : List StreamEvent) :
      bytes.length = length → Serves length (bytes.map StreamEvent.byte ++ events)
  | ended (bytes : List UInt8) :
      bytes.length < length → Serves length (bytes.map StreamEvent.byte)
  | failed (bytes : List UInt8) (cause : ReadFailure) (events : List StreamEvent) :
      bytes.length < length → cause.kind ≠ .interrupted →
      Serves length (bytes.map StreamEvent.byte ++ .failure cause :: events)

theorem Serves.cons {length : Nat} {events : List StreamEvent} (serves : Serves length events)
    (byte : UInt8) : Serves (length + 1) (.byte byte :: events) := by
  cases serves with
  | whole bytes events same => exact .whole (byte :: bytes) events (congrArg (· + 1) same)
  | ended bytes fewer => exact .ended (byte :: bytes) (Nat.succ_lt_succ fewer)
  | failed bytes cause events fewer lasting =>
      exact .failed (byte :: bytes) cause events (Nat.succ_lt_succ fewer) lasting

theorem Uninterrupted.serves {events : List StreamEvent} (uninterrupted : Uninterrupted events)
    (length : Nat) : Serves length events := by
  induction events generalizing length with
  | nil =>
      cases length with
      | zero => exact .whole [] [] rfl
      | succ length => exact .ended [] (Nat.succ_pos length)
  | cons event events inductionHypothesis =>
      cases length with
      | zero => exact .whole [] (event :: events) rfl
      | succ length =>
          cases event with
          | byte byte => exact (inductionHypothesis uninterrupted.tail length).cons byte
          | failure cause =>
              exact .failed [] cause events (Nat.succ_pos length)
                (of_decide_eq_true uninterrupted.head)

/-- A frame read from a device is the one that the events tell, with the same stream behind
its payload. -/
inductive ToldBy : Except WireError (Option String) × List Chunk →
    Except WireError (Option String) × List StreamEvent → Prop where
  | ended {rest : List Chunk} {events : List StreamEvent} :
      ToldBy (.ok none, rest) (.ok none, events)
  | payload {text : String} {rest : List Chunk} {events : List StreamEvent} :
      eventsOf rest = events → ToldBy (.ok (some text), rest) (.ok (some text), events)
  | failed {error : WireError} {rest : List Chunk} {events : List StreamEvent} :
      ToldBy (.error error, rest) (.error error, events)

theorem toldBy_of_error {error : WireError} {rest : List Chunk}
    {told : Except WireError (Option String) × List StreamEvent} (failed : told.1 = .error error) :
    ToldBy (.error error, rest) told := by
  obtain ⟨result, events⟩ := told
  subst failed
  exact .failed

namespace BufferReader

theorem readPayload_toldBy (reader : BufferReader) (interruption : Interruption)
    {limit length : Nat} (allowed : length ≤ limit) {chunks : List Chunk}
    (uninterrupted : Uninterrupted (eventsOf chunks)) :
    ToldBy (reader.readPayload length chunks)
      (readAnnounced interruption limit length (eventsOf chunks)) := by
  -- What the stream has in store decides which law of the library applies.
  have serves := uninterrupted.serves length
  generalize split : eventsOf chunks = events at serves
  cases serves with
  | whole bytes events same =>
      subst same
      obtain ⟨rest, filled, behind⟩ := reader.filled chunks bytes events split
      simp only [readPayload, filled, readAnnounced_whole interruption allowed]
      cases FrameReader.payloadOf bytes.reverse with
      | error error => exact .failed
      | ok text => exact .payload behind
  | ended bytes fewer =>
      obtain ⟨failure, rest, ended, kind⟩ := reader.ended chunks bytes length split fewer
      have told := readAnnounced_unfinished interruption allowed fewer []
      rw [List.append_nil] at told
      simp only [readPayload, ended, told, payloadError, if_pos kind]
      exact .failed
  | failed bytes cause events fewer lasting =>
      obtain ⟨rest, failed⟩ := reader.failed chunks bytes cause events length split fewer lasting
      rw [readAnnounced_unfinished interruption allowed fewer]
      simp only [readPayload, failed, payloadError, FrameReader.read, FrameReader.step,
        FrameReader.meetFailure]
      cases kind : cause.kind with
      | interrupted => exact absurd kind lasting
      | unexpectedEnd => exact .failed
      | other => exact .failed

/-- A header that announces a payload within the limit is followed by it. -/
theorem readFrame_toldBy_of_byte (reader : BufferReader) (interruption : Interruption)
    (limit : Nat) {chunks rest : List Chunk} {byte : UInt8}
    (first : readByte interruption chunks = (.ok (some byte), rest))
    (uninterrupted : Uninterrupted (eventsOf rest)) :
    ToldBy (reader.readFrame interruption limit chunks)
      ((FrameReader.header 0 0).read interruption limit (.byte byte :: eventsOf rest)) := by
  have header := read_readLength interruption limit ⟨0, 0⟩ byte rest
  have suffix := readLength_suffix interruption ⟨0, 0⟩ byte rest
  simp only [readFrame, first]
  cases read : readLength interruption ⟨0, 0⟩ byte rest with
  | mk result behind =>
      rw [read] at header suffix
      cases result with
      | error error => exact toldBy_of_error (congrArg Prod.fst header)
      | ok length =>
          simp only at header
          rw [header]
          by_cases tooLarge : limit < length
          · simp only [if_pos tooLarge, readAnnounced, FrameReader.announce]
            exact .failed
          · simp only [if_neg tooLarge]
            exact reader.readPayload_toldBy interruption (Nat.le_of_not_lt tooLarge)
              (uninterrupted.of_suffix suffix)

/-- Whatever the library, the frames on a device are those of its events. -/
theorem readFrame_toldBy (reader : BufferReader) (interruption : Interruption) (limit : Nat)
    {chunks : List Chunk} (uninterrupted : Uninterrupted (eventsOf chunks)) :
    ToldBy (reader.readFrame interruption limit chunks)
      (Wire.readFrame interruption limit (eventsOf chunks)) := by
  have suffix := readByte_suffix interruption chunks
  rw [Wire.readFrame, FrameReader.start, FrameReader.read_header, nextByte_eventsOf]
  cases first : readByte interruption chunks with
  | mk result rest =>
      rw [first] at suffix
      cases result with
      | error error =>
          simp only [readFrame, first]
          exact .failed
      | ok byte? =>
          cases byte? with
          | none =>
              simp only [readFrame, first]
              exact .ended
          | some byte =>
              exact reader.readFrame_toldBy_of_byte interruption limit first
                (uninterrupted.of_suffix suffix)

theorem told_of_readFrame {reader : BufferReader} {interruption : Interruption} {limit : Nat}
    {chunks rest : List Chunk} {result : Except WireError (Option String)}
    (read : reader.readFrame interruption limit chunks = (result, rest))
    (uninterrupted : Uninterrupted (eventsOf chunks)) :
    ∃ events, Wire.readFrame interruption limit (eventsOf chunks) = (result, events) ∧
      ∀ payload, result = .ok (some payload) → eventsOf rest = events := by
  have told := reader.readFrame_toldBy interruption limit uninterrupted
  rw [read] at told
  generalize Wire.readFrame interruption limit (eventsOf chunks) = frame at told
  cases told with
  | @ended _ events => exact ⟨events, rfl, fun payload other => by cases other⟩
  | @payload _ _ events behind => exact ⟨events, rfl, fun _ _ => behind⟩
  | @failed _ _ events => exact ⟨events, rfl, fun payload other => by cases other⟩

theorem length_lt_of_readFrame {reader : BufferReader} {interruption : Interruption}
    {limit : Nat} {chunks rest : List Chunk} {payload : String}
    (read : reader.readFrame interruption limit chunks = (.ok (some payload), rest)) :
    (eventsOf rest).length < (eventsOf chunks).length := by
  unfold readFrame at read
  split at read
  next => cases read
  next => cases read
  next byte behindByte first =>
    have shorter : (eventsOf behindByte).length < (eventsOf chunks).length := by
      apply length_lt_of_nextByte
      rw [nextByte_eventsOf, first]
    have suffix := readLength_suffix interruption ⟨0, 0⟩ byte behindByte
    split at read
    next => cases read
    next length behindHeader header =>
      rw [header] at suffix
      split at read
      next => cases read
      next =>
        have forward := reader.forward length behindHeader
        unfold readPayload at read
        split at read
        next => cases read
        next bytes behind filled =>
          rw [filled] at forward
          have same : behind = rest := congrArg Prod.snd read
          subst same
          exact Nat.lt_of_le_of_lt (forward.trans suffix).length_le shorter

end BufferReader

/-! ## Writing a buffer -/

/-- On a steady device every library writes a buffer in the same way. The induction is on the
number of bytes left. -/
theorem BufferWriter.writeAll_unique {σ : Type} {device : Device σ} (steady : device.Steady)
    (first second : BufferWriter device) (bytes : List UInt8) (sink : σ) :
    first.writeAll bytes sink = second.writeAll bytes sink := by
  induction size : bytes.length using Nat.strongRecOn generalizing bytes sink with
  | ind _ inductionHypothesis =>
      subst size
      by_cases empty : bytes = []
      · rw [empty, first.written, second.written]
      · cases wrote : device.writeSome bytes sink with
        | mk result next =>
            cases result with
            | error failure =>
                have lasting := steady.uninterrupted empty wrote
                rw [first.refused bytes sink failure next empty lasting wrote,
                  second.refused bytes sink failure next empty lasting wrote]
            | ok count =>
                have positive := steady.accepts empty wrote
                rw [first.accepted bytes sink count next empty positive wrote,
                  second.accepted bytes sink count next empty positive wrote]
                apply inductionHypothesis (bytes.drop count).length _ _ _ rfl
                have nonempty := List.length_pos_iff.mpr empty
                rw [List.length_drop]
                omega

theorem BufferWriter.writer_unique {σ : Type} {device : Device σ} (steady : device.Steady)
    (first second : BufferWriter device) : first.writer = second.writer := by
  have same : first.writeAll = second.writeAll :=
    funext fun bytes => funext fun sink => writeAll_unique steady first second bytes sink
  rw [writer, writer, same]

end ListInvocation.Wire
