import ListInvocation.Proofs.Wire.FrameReader

/-!
Contract: the reading of frames from a byte stream.

Owns: a frame is read exactly where its bytes stand, and what is read when a payload stays
unfinished.

Does not own: the session that answers frames.
-/

namespace ListInvocation.Wire

open ListInvocation.Decimal

namespace FrameReader

/-! ## What is read is a frame -/

theorem read_byte {interruption : Interruption} {limit : Nat} {reader next : FrameReader}
    {byte : UInt8} (taken : reader.takeByte limit byte = (next, none))
    (events : List StreamEvent) :
    reader.read interruption limit (.byte byte :: events) =
      next.read interruption limit events := by
  simp only [read, step, taken]

theorem read_lastByte {interruption : Interruption} {limit : Nat} {reader next : FrameReader}
    {byte : UInt8} {result : FrameResult}
    (taken : reader.takeByte limit byte = (next, some result)) (events : List StreamEvent) :
    reader.read interruption limit (.byte byte :: events) = (result.map some, events) := by
  cases result <;> simp only [read, step, taken] <;> rfl

theorem read_failure {cause : ReadFailure}
    (lasting : (StreamEvent.failure cause).isLasting = true) (interruption : Interruption)
    (limit : Nat) (reader : FrameReader) (events : List StreamEvent) :
    ∃ error, reader.read interruption limit (.failure cause :: events) =
      (.error error, events) := by
  obtain ⟨error, failed⟩ := step_failure lasting interruption limit reader
  exact ⟨error, by simp only [read, failed]⟩

/-- The induction is on the stream; the bytes in front of it are those of the frame that
the reader is in. -/
theorem isFrame_of_read {interruption : Interruption} {limit : Nat} {reader : FrameReader}
    {taken : List UInt8} {events rest : List StreamEvent} {payload : String}
    (uninterrupted : Uninterrupted events) (took : reader.Took limit taken)
    (result : reader.read interruption limit events = (.ok (some payload), rest)) :
    ∃ front, events = front.map StreamEvent.byte ++ rest ∧
      IsFrame limit payload (taken ++ front) := by
  induction events generalizing reader taken with
  | nil =>
      unfold read at result
      split at result <;> cases result
  | cons event events inductionHypothesis =>
      cases event with
      | failure cause =>
          obtain ⟨error, failed⟩ :=
            read_failure uninterrupted.head interruption limit reader events
          rw [failed] at result
          cases result
      | byte byte =>
          cases stepped : reader.takeByte limit byte with
          | mk next result? =>
              have took := took.takes (takes_of_takeByte stepped)
              cases result? with
              | none =>
                  rw [read_byte stepped] at result
                  obtain ⟨front, split, framed⟩ :=
                    inductionHypothesis uninterrupted.tail (took.1 rfl) result
                  refine ⟨byte :: front, by rw [split]; rfl, ?_⟩
                  rwa [List.append_assoc] at framed
              | some frameResult =>
                  rw [read_lastByte stepped] at result
                  cases frameResult with
                  | error error => cases result
                  | ok text =>
                      cases result
                      exact ⟨[byte], rfl, took.2 payload rfl⟩

/-- In the middle of a frame the end of the stream is a failure. -/
theorem read_ne_none_of_midway {interruption : Interruption} {limit : Nat}
    {reader : FrameReader} {events rest : List StreamEvent}
    (uninterrupted : Uninterrupted events) (midway : ∃ error, reader.atEnd = some error) :
    reader.read interruption limit events ≠ (.ok none, rest) := by
  induction events generalizing reader with
  | nil =>
      obtain ⟨error, ended⟩ := midway
      simp [read, ended]
  | cons event events inductionHypothesis =>
      cases event with
      | failure cause =>
          obtain ⟨error, failed⟩ :=
            read_failure uninterrupted.head interruption limit reader events
          simp [failed]
      | byte byte =>
          cases stepped : reader.takeByte limit byte with
          | mk next result? =>
              cases result? with
              | none =>
                  rw [read_byte stepped]
                  exact inductionHypothesis uninterrupted.tail
                    (takes_of_takeByte stepped).midway
              | some frameResult =>
                  rw [read_lastByte stepped]
                  cases frameResult <;> simp [Except.map]

/-! ## A frame is read -/

theorem takeByte_digit {character : Char} (digit : isDigit character = true) {count : Nat}
    (room : count < maxLengthDigits) (limit value : Nat) :
    takeByte limit (.header value count) (asciiByte character) =
      (.header (value * 10 + digitValue character) (count + 1), none) := by
  simp only [takeByte, asciiByte_ne_colon digit, false_and, if_false,
    digitOf?_asciiByte digit, if_pos room]

theorem takeByte_colon {count : Nat} (positive : 0 < count) (limit value : Nat) :
    takeByte limit (.header value count) 58 = announce limit value := by
  simp only [takeByte, positive, and_self, if_true]

theorem read_digits (interruption : Interruption) (limit : Nat) {run : List Char}
    (digits : ∀ character ∈ run, isDigit character = true) {count : Nat}
    (short : count + run.length ≤ maxLengthDigits) (value : Nat) (events : List StreamEvent) :
    (FrameReader.header value count).read interruption limit
        ((bytesOf (String.ofList run)).map StreamEvent.byte ++ events) =
      (FrameReader.header
        (run.foldl (fun value digit => value * 10 + digitValue digit) value)
        (count + run.length)).read interruption limit events := by
  induction run generalizing value count with
  | nil => rfl
  | cons character run inductionHypothesis =>
      have isDigit := digits character List.mem_cons_self
      rw [List.length_cons] at short ⊢
      rw [bytesOf_cons_digit isDigit, List.map_cons, List.cons_append,
        read_byte (takeByte_digit isDigit (by omega) limit value),
        inductionHypothesis (fun other member =>
          digits other (List.mem_cons_of_mem character member)) (by omega)]
      rw [List.foldl_cons, Nat.add_assoc, Nat.add_comm 1]

/-- Bytes that leave a payload unfinished are collected. -/
theorem read_unfinished (interruption : Interruption) (limit length : Nat)
    {bytes : List UInt8} {missing : Nat} (unfinished : bytes.length < missing)
    (collected : List UInt8) (events : List StreamEvent) :
    (FrameReader.payload length missing collected).read interruption limit
        (bytes.map StreamEvent.byte ++ events) =
      (FrameReader.payload length (missing - bytes.length)
        (bytes.reverse ++ collected)).read interruption limit events := by
  induction bytes generalizing missing collected with
  | nil => rfl
  | cons byte bytes inductionHypothesis =>
      rw [List.length_cons] at unfinished
      have taken : (FrameReader.payload length missing collected).takeByte limit byte =
          (.payload length (missing - 1) (byte :: collected), none) :=
        if_neg (by omega)
      rw [List.map_cons, List.cons_append, read_byte taken,
        inductionHypothesis (by omega), List.length_cons, List.reverse_cons,
        List.append_assoc, List.singleton_append, Nat.sub_sub, Nat.add_comm 1]

/-- The missing bytes complete a payload, and nothing behind them is taken. -/
theorem read_payload (interruption : Interruption) (limit length : Nat) {bytes : List UInt8}
    (nonempty : bytes ≠ []) (collected : List UInt8) (events : List StreamEvent) :
    (FrameReader.payload length bytes.length collected).read interruption limit
        (bytes.map StreamEvent.byte ++ events) =
      ((payloadOf (bytes.reverse ++ collected)).map some, events) := by
  obtain ⟨front, last, split⟩ := List.eq_nil_or_concat bytes |>.resolve_left nonempty
  subst split
  have unfinished : front.length < (front ++ [last]).length := by simp
  have taken : (FrameReader.payload length ((front ++ [last]).length - front.length)
      (front.reverse ++ collected)).takeByte limit last =
        (start, some (payloadOf (last :: (front.reverse ++ collected)))) :=
    if_pos (by simp)
  rw [List.concat_eq_append, List.map_append, List.append_assoc,
    read_unfinished interruption limit length unfinished, List.map_singleton,
    List.singleton_append, read_lastByte taken, List.reverse_append, List.reverse_singleton,
    List.singleton_append, List.cons_append]

theorem payloadOf_reverse_bytesOf (payload : String) :
    payloadOf (bytesOf payload).reverse = .ok payload := by
  rw [payloadOf, List.reverse_reverse, textOf?_eq_some_iff.mpr rfl]

/-- A read passes over the interrupted reads that are tried again, and over nothing else. -/
theorem read_visible (interruption : Interruption) (limit : Nat) (reader : FrameReader)
    (events : List StreamEvent) :
    reader.read interruption limit (visible interruption events) =
      ((reader.read interruption limit events).1,
        visible interruption (reader.read interruption limit events).2) := by
  cases interruption with
  | reported => rfl
  | retried =>
      simp only [visible, undisturbed]
      induction events generalizing reader with
      | nil =>
          simp only [List.filter_nil, read]
          cases reader.atEnd <;> rfl
      | cons event events inductionHypothesis =>
          by_cases lasting : event.isLasting = true
          · rw [List.filter_cons_of_pos lasting]
            simp only [read]
            cases reader.step .retried limit event with
            | mk next result? =>
                cases result? with
                | none => exact inductionHypothesis next
                | some result => cases result <;> rfl
          · rw [List.filter_cons_of_neg lasting]
            simp only [read, reader.step_interrupted limit lasting]
            exact inductionHypothesis reader

/-- A payload that was read is taken off the stream. -/
theorem length_lt_of_read {interruption : Interruption} {limit : Nat} {reader : FrameReader}
    {events rest : List StreamEvent} {payload : String}
    (result : reader.read interruption limit events = (.ok (some payload), rest)) :
    rest.length < events.length := by
  induction events generalizing reader with
  | nil =>
      unfold read at result
      split at result <;> cases result
  | cons event events inductionHypothesis =>
      rw [List.length_cons]
      unfold read at result
      split at result
      next => exact Nat.lt_succ_of_lt (inductionHypothesis result)
      next =>
        cases result
        exact Nat.lt_succ_self _
      next => cases result

end FrameReader

/-! ## Behind a header -/

/-- How a frame is read behind its header. -/
def readAnnounced (interruption : Interruption) (limit length : Nat)
    (events : List StreamEvent) : Except WireError (Option String) × List StreamEvent :=
  match FrameReader.announce limit length with
  | (reader, none) => reader.read interruption limit events
  | (_, some result) => (result.map some, events)

/-- A payload with bytes is waited for. -/
theorem readAnnounced_positive (interruption : Interruption) {limit length : Nat}
    (allowed : length ≤ limit) (positive : 0 < length) (events : List StreamEvent) :
    readAnnounced interruption limit length events =
      (FrameReader.payload length length []).read interruption limit events := by
  rw [readAnnounced, FrameReader.announce, if_neg (Nat.not_lt.mpr allowed),
    if_neg (Nat.ne_of_gt positive)]

theorem readAnnounced_whole (interruption : Interruption) {limit : Nat} {bytes : List UInt8}
    (allowed : bytes.length ≤ limit) (events : List StreamEvent) :
    readAnnounced interruption limit bytes.length (bytes.map StreamEvent.byte ++ events) =
      ((FrameReader.payloadOf bytes.reverse).map some, events) := by
  cases bytes with
  | nil => rfl
  | cons byte bytes =>
      rw [readAnnounced_positive interruption allowed (Nat.succ_pos bytes.length),
        FrameReader.read_payload interruption limit _ (List.cons_ne_nil byte bytes),
        List.append_nil]

theorem readAnnounced_unfinished (interruption : Interruption) {limit length : Nat}
    (allowed : length ≤ limit) {bytes : List UInt8} (fewer : bytes.length < length)
    (events : List StreamEvent) :
    readAnnounced interruption limit length (bytes.map StreamEvent.byte ++ events) =
      (FrameReader.payload length (length - bytes.length) bytes.reverse).read interruption limit
        events := by
  rw [readAnnounced_positive interruption allowed (Nat.zero_lt_of_lt fewer),
    FrameReader.read_unfinished interruption limit length fewer, List.append_nil]

theorem readAnnounced_visible (interruption : Interruption) (limit length : Nat)
    (events : List StreamEvent) :
    readAnnounced interruption limit length (visible interruption events) =
      ((readAnnounced interruption limit length events).1,
        visible interruption (readAnnounced interruption limit length events).2) := by
  unfold readAnnounced
  cases FrameReader.announce limit length with
  | mk reader result? =>
      cases result? with
      | none => exact reader.read_visible interruption limit events
      | some result => rfl

/-- Some bytes are the header of a frame: one to nine digits that denote the length of its
payload, and a colon. -/
def IsHeader (length : Nat) (bytes : List UInt8) : Prop :=
  ∃ run, Numeral run ∧ ofDigits run = length ∧ bytes = bytesOf (String.ofList run) ++ [58]

/-- The digits of a header are read one by one. -/
theorem readFrame_digits (interruption : Interruption) (limit : Nat) {run : List Char}
    (digits : ∀ character ∈ run, isDigit character = true)
    (short : run.length ≤ maxLengthDigits) (events : List StreamEvent) :
    readFrame interruption limit
        ((bytesOf (String.ofList run)).map StreamEvent.byte ++ events) =
      (FrameReader.header (ofDigits run) run.length).read interruption limit events := by
  have counted : 0 + run.length ≤ maxLengthDigits := by rwa [Nat.zero_add]
  have read := FrameReader.read_digits interruption limit digits counted 0 events
  rwa [Nat.zero_add] at read

/-- A header announces the length of what is read behind it. -/
theorem readFrame_header (interruption : Interruption) (limit : Nat) {length : Nat}
    {header : List UInt8} (isHeader : IsHeader length header) (events : List StreamEvent) :
    readFrame interruption limit (header.map StreamEvent.byte ++ events) =
      readAnnounced interruption limit length events := by
  obtain ⟨run, numeral, denotes, spelled⟩ := isHeader
  rw [spelled, List.map_append, List.append_assoc,
    readFrame_digits interruption limit numeral.digits numeral.short, denotes]
  have colon := FrameReader.takeByte_colon numeral.positive limit length
  rw [readAnnounced]
  cases announced : FrameReader.announce limit length with
  | mk reader result? =>
      rw [announced] at colon
      cases result? with
      | none => exact FrameReader.read_byte colon events
      | some result => exact FrameReader.read_lastByte colon events

/-- A frame is a header and the payload that it announces. -/
theorem isFrame_iff_header {limit : Nat} {payload : String} {bytes : List UInt8} :
    IsFrame limit payload bytes ↔
      ∃ header, IsHeader payload.utf8ByteSize header ∧ payload.utf8ByteSize ≤ limit ∧
        bytes = header ++ bytesOf payload := by
  constructor
  · rintro ⟨run, numeral, denotes, allowed, spelled⟩
    exact ⟨_, ⟨run, numeral, denotes, rfl⟩, allowed, by simp [spelled]⟩
  · rintro ⟨_, ⟨run, numeral, denotes, rfl⟩, allowed, spelled⟩
    exact ⟨run, numeral, denotes, allowed, by simp [spelled]⟩

/-- The bytes of a frame are read as its payload, and nothing behind them. -/
theorem readFrame_of_isFrame (interruption : Interruption) {limit : Nat} {payload : String}
    {front : List UInt8} (framed : IsFrame limit payload front) (events : List StreamEvent) :
    readFrame interruption limit (front.map StreamEvent.byte ++ events) =
      (.ok (some payload), events) := by
  obtain ⟨header, isHeader, allowed, split⟩ := isFrame_iff_header.mp framed
  rw [← length_bytesOf] at isHeader allowed
  rw [split, List.map_append, List.append_assoc, readFrame_header interruption limit isHeader,
    readAnnounced_whole interruption allowed, FrameReader.payloadOf_reverse_bytesOf]
  rfl

/-- A written frame is one. -/
theorem isFrame_frame {limit : Nat} {payload : String} (allowed : payload.utf8ByteSize ≤ limit)
    (small : payload.utf8ByteSize < 1000000000) :
    IsFrame limit payload (bytesOf (frame payload)) := by
  refine ⟨paddedDigits lengthWidth payload.utf8ByteSize, numeral_paddedDigits small,
    ofDigits_paddedDigits lengthWidth _, allowed, ?_⟩
  rw [frame, encodeLength, String.ofList_append, bytesOf_append, bytesOf_append,
    List.append_assoc]
  rfl

/-- A payload is read exactly where its frame stands. -/
theorem readFrame_eq_some_iff {interruption : Interruption} {limit : Nat}
    {events rest : List StreamEvent} {payload : String} (uninterrupted : Uninterrupted events) :
    readFrame interruption limit events = (.ok (some payload), rest) ↔
      ∃ front, events = front.map StreamEvent.byte ++ rest ∧ IsFrame limit payload front := by
  constructor
  · intro result
    exact FrameReader.isFrame_of_read uninterrupted (FrameReader.took_start limit) result
  · rintro ⟨front, split, framed⟩
    rw [split]
    exact readFrame_of_isFrame interruption framed rest

/-- Only at its end has a stream no further frame. -/
theorem readFrame_eq_none_iff {interruption : Interruption} {limit : Nat}
    {events rest : List StreamEvent} (uninterrupted : Uninterrupted events) :
    readFrame interruption limit events = (.ok none, rest) ↔ events = [] ∧ rest = [] := by
  constructor
  · intro result
    cases events with
    | nil => exact ⟨rfl, (congrArg Prod.snd result).symm⟩
    | cons event events =>
        cases event with
        | failure cause =>
            obtain ⟨error, failed⟩ :=
              FrameReader.read_failure uninterrupted.head interruption limit .start events
            rw [readFrame, failed] at result
            cases result
        | byte byte =>
            cases stepped : FrameReader.start.takeByte limit byte with
            | mk next result? =>
                cases result? with
                | none =>
                    rw [readFrame, FrameReader.read_byte stepped] at result
                    exact absurd result (FrameReader.read_ne_none_of_midway uninterrupted.tail
                      (FrameReader.takes_of_takeByte stepped).midway)
                | some frameResult =>
                    rw [readFrame, FrameReader.read_lastByte stepped] at result
                    cases frameResult <;> cases result
  · rintro ⟨atEnd, nothing⟩
    subst atEnd nothing
    rfl

end ListInvocation.Wire
