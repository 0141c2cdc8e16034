import Mathlib.Algebra.GroupWithZero.Nat
import ListInvocation.Proofs.Wire.Framing
import ListInvocation.Proofs.Wire.WholeBuffer

/-!
Contract: reads depend on the bytes of a stream only.

Where interrupted reads are tried again they cannot be told from no read at all, and borders
of chunks never can. A library that fills buffers is held to the same.

Owns: the range of a header's value, reads and repeated reads from chunks, and the fact that
nothing is lost.

Does not own: streams on which a read fails for good.
-/

namespace ListInvocation.Wire

/-! ## The value of a header -/

namespace LengthHeader

/-- The headers that some bytes lead to. -/
inductive Reached : LengthHeader → Prop where
  | start : Reached ⟨0, 0⟩
  | pushed {header next : LengthHeader} {byte : UInt8} :
      Reached header → header.push byte = .ok (.inl next) → Reached next

/-- A header has no more digits than fit, and a value of so many digits. -/
theorem Reached.bounded {header : LengthHeader} (reached : Reached header) :
    header.digits ≤ maxLengthDigits ∧ header.value < 10 ^ header.digits := by
  induction reached with
  | start => decide
  | pushed _ pushed inductionHypothesis =>
      obtain ⟨digit, small, room, next⟩ := eq_of_push pushed
      subst next
      refine ⟨room, ?_⟩
      rw [Nat.pow_succ]
      have valueFits := inductionHypothesis.2
      dsimp only
      omega

theorem Reached.value_lt {header : LengthHeader} (reached : Reached header) :
    header.value < 1000000000 := by
  obtain ⟨short, fits⟩ := reached.bounded
  exact Nat.lt_of_lt_of_le fits (Nat.pow_le_pow_right (by decide) short)

end LengthHeader

/-! ## Reads from chunks -/

namespace BufferReader

section Reads

variable {reader : BufferReader} {interruption : Interruption}
  (follows : reader.Follows interruption) {chunks : List Chunk} {bytes : List UInt8}
  (onlyBytes : visible interruption (eventsOf chunks) = bytes.map StreamEvent.byte)

include follows onlyBytes

theorem Follows.readPayload_eq {limit length : Nat} (allowed : length ≤ limit) :
    readAnnounced interruption limit length (bytes.map StreamEvent.byte) =
      ((reader.readPayload length chunks).1,
        visible interruption (eventsOf (reader.readPayload length chunks).2)) := by
  by_cases fewer : bytes.length < length
  · obtain ⟨failure, rest, ended, kind, nothing⟩ :=
      follows.ended chunks bytes length onlyBytes fewer
    have told := readAnnounced_unfinished interruption allowed fewer []
    rw [List.append_nil] at told
    simp only [told, readPayload, ended, payloadError, if_pos kind, nothing]
    rfl
  · have counted : (bytes.take length).length = length := by
      rw [List.length_take]
      omega
    have split : bytes.map StreamEvent.byte = (bytes.take length).map StreamEvent.byte ++
        (bytes.drop length).map StreamEvent.byte := by
      rw [← List.map_append, List.take_append_drop]
    obtain ⟨rest, filled, behind⟩ :=
      follows.filled chunks (bytes.take length) _ (onlyBytes.trans split)
    have allowed' : (bytes.take length).length ≤ limit := by rwa [counted]
    have told := readAnnounced_whole interruption allowed'
      ((bytes.drop length).map StreamEvent.byte)
    rw [counted] at filled told
    rw [split, told]
    simp only [readPayload, filled, behind]

/-- A header whose first byte was read is followed by what it announces. -/
theorem Follows.readFrame_eq_of_byte (limit : Nat) {before : List Chunk} {byte : UInt8}
    (first : readByte interruption before = (.ok (some byte), chunks)) :
    (FrameReader.header 0 0).read interruption limit
        (.byte byte :: bytes.map StreamEvent.byte) =
      ((reader.readFrame interruption limit before).1,
        visible interruption (eventsOf (reader.readFrame interruption limit before).2)) := by
  have header := read_readLength interruption limit ⟨0, 0⟩ byte chunks
  have suffix := readLength_suffix interruption ⟨0, 0⟩ byte chunks
  have told := FrameReader.read_visible interruption limit (.header 0 0)
    (.byte byte :: eventsOf chunks)
  rw [visible_byte, onlyBytes] at told
  simp only [told, readFrame, first]
  cases read : readLength interruption ⟨0, 0⟩ byte chunks with
  | mk result rest =>
      rw [read] at header suffix
      cases result with
      | error error =>
          simp only at header
          simp only [header]
      | ok length =>
          simp only at header
          simp only [header]
          by_cases tooLarge : limit < length
          · simp only [readAnnounced, FrameReader.announce, if_pos tooLarge]
            rfl
          · -- What is left behind the header are bytes again.
            have left := visible_suffix interruption suffix
            rw [onlyBytes] at left
            obtain ⟨others, _, split⟩ := List.suffix_map_iff.mp left
            simp only [if_neg tooLarge]
            rw [← readAnnounced_visible, split]
            exact follows.readPayload_eq split (Nat.le_of_not_lt tooLarge)

/-- A frame is read from chunks as from their visible bytes. -/
theorem Follows.readFrame_eq (limit : Nat) :
    Wire.readFrame interruption limit (bytes.map StreamEvent.byte) =
      ((reader.readFrame interruption limit chunks).1,
        visible interruption (eventsOf (reader.readFrame interruption limit chunks).2)) := by
  have next := nextByte_visible interruption (eventsOf chunks)
  rw [onlyBytes, nextByte_eventsOf] at next
  rw [Wire.readFrame, FrameReader.start, FrameReader.read_header, next]
  cases first : readByte interruption chunks with
  | mk result rest =>
      rw [first] at next
      cases result with
      | error error => simp only [readFrame, first]
      | ok byte? =>
          cases byte? with
          | none =>
              have nothing := eq_nil_of_nextByte next
              simp only [readFrame, first, nothing]
              rfl
          | some byte =>
              obtain ⟨others, split⟩ := exists_bytes_of_nextByte next
              simp only [split]
              exact follows.readFrame_eq_of_byte split limit first

/-- What one read of the visible bytes yields is what a read of the chunks yields. -/
theorem Follows.readFrame_of_readOf {limit : Nat} {result : Except WireError (Option String)}
    {behind : List UInt8} (readOf : ReadOf limit bytes result behind) :
    ∃ rest, reader.readFrame interruption limit chunks = (result, rest) ∧
      visible interruption (eventsOf rest) = behind.map StreamEvent.byte := by
  have told := follows.readFrame_eq onlyBytes limit
  rw [readOf.readFrame_eq] at told
  obtain ⟨sameResult, sameRest⟩ := Prod.ext_iff.mp told
  exact ⟨_, Prod.ext sameResult.symm rfl, sameRest.symm⟩

end Reads

def readFrames (reader : BufferReader) (interruption : Interruption) (limit : Nat) :
    (count : Nat) → List Chunk → List (Except WireError (Option String)) × List Chunk
  | 0, chunks => ([], chunks)
  | count + 1, chunks =>
      let (result, chunks) := reader.readFrame interruption limit chunks
      let (results, chunks) := reader.readFrames interruption limit count chunks
      (result :: results, chunks)

end BufferReader

/-- Whatever the chunks of a stream are, and wherever reads are interrupted that are tried
again, so many reads of the bytes yield the results and leave the bytes behind. -/
def Yields (limit : Nat) (bytes : List UInt8)
    (results : List (Except WireError (Option String))) (behind : List UInt8) : Prop :=
  ∀ (interruption : Interruption) (chunks : List Chunk),
    visible interruption (eventsOf chunks) = bytes.map StreamEvent.byte →
      readFrames interruption limit results.length (eventsOf chunks) = results ∧
      ∀ reader : BufferReader, reader.Follows interruption →
        ∃ rest, reader.readFrames interruption limit results.length chunks = (results, rest) ∧
          visible interruption (eventsOf rest) = behind.map StreamEvent.byte

theorem readFrames_of_readsOf {limit : Nat} {bytes behind : List UInt8}
    {results : List (Except WireError (Option String))}
    (readsOf : ReadsOf limit bytes results behind) {interruption : Interruption}
    {events : List StreamEvent}
    (onlyBytes : visible interruption events = bytes.map StreamEvent.byte) :
    readFrames interruption limit results.length events = results := by
  induction readsOf generalizing events with
  | nil => rfl
  | cons first _ inductionHypothesis =>
      have told := FrameReader.read_visible interruption limit .start events
      have read := first.readFrame_eq interruption
      rw [readFrame, ← onlyBytes, told] at read
      obtain ⟨sameResult, sameRest⟩ := Prod.ext_iff.mp read
      simp only at sameResult sameRest
      simp only [List.length_cons, readFrames, readFrame, sameResult,
        inductionHypothesis sameRest]

theorem BufferReader.Follows.readFrames_of_readsOf {reader : BufferReader}
    {interruption : Interruption} (follows : reader.Follows interruption) {limit : Nat}
    {bytes behind : List UInt8} {results : List (Except WireError (Option String))}
    (readsOf : ReadsOf limit bytes results behind) {chunks : List Chunk}
    (onlyBytes : visible interruption (eventsOf chunks) = bytes.map StreamEvent.byte) :
    ∃ rest, reader.readFrames interruption limit results.length chunks = (results, rest) ∧
      visible interruption (eventsOf rest) = behind.map StreamEvent.byte := by
  induction readsOf generalizing chunks with
  | nil => exact ⟨chunks, rfl, onlyBytes⟩
  | cons first _ inductionHypothesis =>
      obtain ⟨between, read, left⟩ := follows.readFrame_of_readOf onlyBytes first
      obtain ⟨rest, others, behind⟩ := inductionHypothesis left
      refine ⟨rest, ?_, behind⟩
      simp only [List.length_cons, BufferReader.readFrames, read, others]

theorem ReadsOf.yields {limit : Nat} {bytes behind : List UInt8}
    {results : List (Except WireError (Option String))}
    (readsOf : ReadsOf limit bytes results behind) : Yields limit bytes results behind :=
  fun _ _ onlyBytes => ⟨readFrames_of_readsOf readsOf onlyBytes,
    fun _ follows => follows.readFrames_of_readsOf readsOf onlyBytes⟩

/-- Framing is lossless under any chunking. Texts that fit are read in order, each read taking
its own frame, and at the end there is none. The results of any number of reads depend on the
bytes of the stream alone, as `ReadOf` tells for a single read, and it tells nothing else. The
value of a header stays below 10^9. -/
theorem readFrames_lossless (limit : Nat) :
    (∀ front back : List String,
        (∀ text ∈ front, text.utf8ByteSize ≤ limit ∧ text.utf8ByteSize < 1000000000) →
        Yields limit (framesOf (front ++ back)) (front.map fun text => .ok (some text))
          (framesOf back)) ∧
      (∀ (texts : List String) (more : Nat),
        (∀ text ∈ texts, text.utf8ByteSize ≤ limit ∧ text.utf8ByteSize < 1000000000) →
        Yields limit (framesOf texts)
          (texts.map (fun text => .ok (some text)) ++ List.replicate more (.ok none)) []) ∧
      (∀ (bytes : List UInt8) (count : Nat), ∃ results behind, results.length = count ∧
        ReadsOf limit bytes results behind ∧ Yields limit bytes results behind) ∧
      (∀ (interruption : Interruption) (bytes behind : List UInt8)
        (result : Except WireError (Option String)),
        readFrame interruption limit (bytes.map StreamEvent.byte) =
            (result, behind.map StreamEvent.byte) ↔
          ReadOf limit bytes result behind) ∧
      ∀ header : LengthHeader, header.Reached → header.value < 1000000000 := by
  refine ⟨?_, ?_, ?_, fun interruption _ _ _ => readFrame_eq_iff interruption,
    fun header reached => reached.value_lt⟩
  · intro front back fit
    have split : framesOf (front ++ back) = framesOf front ++ framesOf back :=
      List.flatMap_append
    rw [split]
    exact (readsOf_framesOf fit (framesOf back)).yields
  · intro texts more fit
    have reads := readsOf_framesOf fit []
    rw [List.append_nil] at reads
    exact (reads.append (readsOf_nil limit more)).yields
  · intro bytes count
    obtain ⟨results, behind, counted, readsOf⟩ := exists_readsOf limit count bytes
    exact ⟨results, behind, counted, readsOf, readsOf.yields⟩

/-- Two frames in chunks, with what stands between the chunks. -/
def cutFrames (between : List Chunk) : List Chunk :=
  .bytes (bytesOf "0000") :: between ++ .bytes (bytesOf "02:h") :: between ++
    .bytes (bytesOf "i000000") :: between ++ [.bytes (bytesOf ":")]

/-- Two texts arrive through reads that are interrupted within headers and within a payload
and tried again, and through uninterrupted ones; a header with a value is reached. -/
theorem readFrames_lossless_cutFrames :
    let interrupted := cutFrames [.failure ⟨.interrupted, "interrupted"⟩, .bytes []]
    let results : List (Except WireError (Option String)) :=
      [.ok (some "hi"), .ok (some ""), .ok none]
    (visible .retried (eventsOf interrupted) = (framesOf ["hi", ""]).map StreamEvent.byte ∧
      ∃ rest, (wholeReader .retried "failed to fill whole buffer").readFrames .retried 2 3
          interrupted = (results, rest) ∧ visible .retried (eventsOf rest) = []) ∧
      (visible .reported (eventsOf (cutFrames [])) = (framesOf ["hi", ""]).map StreamEvent.byte ∧
        ∃ rest, (wholeReader .reported "early eof").readFrames .reported 2 3 (cutFrames []) =
            (results, rest) ∧ eventsOf rest = []) ∧
      LengthHeader.Reached ⟨7, 1⟩ ∧ 7 < 1000000000 := by
  intro interrupted results
  obtain ⟨_, inOrder, _, _, bounded⟩ := readFrames_lossless 2
  have yields := inOrder ["hi", ""] 1 (by decide)
  have retried : visible .retried (eventsOf interrupted) =
      (framesOf ["hi", ""]).map StreamEvent.byte := by decide +kernel
  have reported : visible .reported (eventsOf (cutFrames [])) =
      (framesOf ["hi", ""]).map StreamEvent.byte := by decide +kernel
  have pushed : LengthHeader.push ⟨0, 0⟩ 55 = .ok (.inl ⟨7, 1⟩) := rfl
  have reached : LengthHeader.Reached ⟨7, 1⟩ := .pushed .start pushed
  exact ⟨⟨retried, (yields .retried interrupted retried).2 _ (wholeReader_follows _ _)⟩,
    ⟨reported, (yields .reported (cutFrames []) reported).2 _ (wholeReader_follows _ _)⟩,
    reached, bounded _ reached⟩

end ListInvocation.Wire
