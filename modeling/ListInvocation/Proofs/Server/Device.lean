import ListInvocation.Proofs.Server.Answer
import ListInvocation.Proofs.Server.Course
import ListInvocation.Proofs.Wire.Port
import ListInvocation.Server.Device
import ListInvocation.Platform

/-!
Contract: a session on a device is the session on the events of its stream.

Two libraries may read and write whole buffers in their own ways, and may treat interrupted
reads differently. Where no read is interrupted and every write makes progress, a session
cannot tell them apart.

Owns: the agreement of the loop over a device with the loop over events.

Does not own: what a session does on a stream of events.
-/

namespace ListInvocation

open ListInvocation.Wire

variable [Text.Alphabet] {σ : Type} {device : Device σ}

namespace Conversation

/-- The loop over a device is the loop over its events. -/
theorem converseOn_eq (port : Port device) (interruption : Interruption) (limit : Nat)
    (exchange : Exchange σ) {chunks : List Chunk}
    (uninterrupted : Uninterrupted (eventsOf chunks)) :
    converseOn port interruption limit exchange chunks =
      converse interruption port.writer limit exchange (eventsOf chunks) := by
  fun_induction converseOn port interruption limit exchange chunks with
  | case1 exchange chunks rest read =>
      obtain ⟨events, told, _⟩ := BufferReader.told_of_readFrame read uninterrupted
      rw [converse_eq, told]
      rfl
  | case2 exchange chunks error rest read =>
      obtain ⟨events, told, _⟩ := BufferReader.told_of_readFrame read uninterrupted
      rw [converse_eq, told]
      rfl
  | case3 exchange chunks payload rest read ending next answered =>
      obtain ⟨events, told, _⟩ := BufferReader.told_of_readFrame read uninterrupted
      rw [converse_eq, told, afterRead, answered]
  | case4 exchange chunks payload rest read next answered inductionHypothesis =>
      obtain ⟨events, told, behind⟩ := BufferReader.told_of_readFrame read uninterrupted
      -- The frame stood in front of the rest, which is therefore uninterrupted as well.
      obtain ⟨front, split, _⟩ := (readFrame_eq_some_iff uninterrupted).mp told
      have same : eventsOf rest = events := behind payload rfl
      have restUninterrupted : Uninterrupted events := (split ▸ uninterrupted).of_append
      rw [converse_eq, told, afterRead, answered]
      rw [same] at inductionHypothesis
      exact inductionHypothesis restUninterrupted

theorem serveOn_eq (port : Port device) (interruption : Interruption) (greeting : String)
    (limit : Nat) (exchange : Exchange σ) {chunks : List Chunk}
    (uninterrupted : Uninterrupted (eventsOf chunks)) :
    serveOn port interruption greeting limit exchange chunks =
      serve interruption port.writer greeting limit exchange (eventsOf chunks) := by
  unfold serveOn serve
  cases sendText port.writer greeting exchange with
  | mk ending? exchange =>
      cases ending? with
      | some ending => rfl
      | none => simp only [converseOn_eq port interruption limit exchange uninterrupted]

/-- On sinks with limited room, which accept a few bytes in one write, a session is the one
that writes whole texts. -/
theorem serveOn_boundedSink {most : Nat} (positive : 0 < most)
    (port : Port (BoundedSink.device most)) (interruption : Interruption) (greeting : String)
    (limit : Nat) (exchange : Exchange BoundedSink) {chunks : List Chunk}
    (uninterrupted : Uninterrupted (eventsOf chunks)) :
    serveOn port interruption greeting limit exchange chunks =
      serve interruption BoundedSink.writer greeting limit exchange (eventsOf chunks) := by
  rw [serveOn_eq port interruption greeting limit exchange uninterrupted,
    BoundedSink.writer_eq positive port.toBufferWriter]

/-! ## Interrupted reads -/

omit [Text.Alphabet] in
/-- How interrupted reads are treated shows only when there is one. -/
theorem step_of_lasting (first second : Interruption) (limit : Nat) (reader : FrameReader)
    {event : StreamEvent} (lasting : event.isLasting = true) :
    reader.step first limit event = reader.step second limit event := by
  cases event with
  | byte byte => rfl
  | failure cause =>
      have notInterrupted : cause.kind ≠ .interrupted := of_decide_eq_true lasting
      cases reader with
      | header value digits =>
          simp only [FrameReader.step, FrameReader.meetFailure, notInterrupted, false_and,
            if_false]
      | payload length missing collected => rfl

theorem feed_of_uninterrupted (first second : Interruption) (writer : Writer σ) (limit : Nat)
    (reader : FrameReader) (exchange : Exchange σ) {events : List StreamEvent}
    (uninterrupted : Uninterrupted events) :
    feed first writer limit reader exchange events =
      feed second writer limit reader exchange events := by
  induction events generalizing reader exchange with
  | nil => rfl
  | cons event events inductionHypothesis =>
      simp only [feed, step_of_lasting first second limit reader uninterrupted.head,
        fun reader exchange => inductionHypothesis reader exchange uninterrupted.tail]

theorem serve_of_uninterrupted (first second : Interruption) (writer : Writer σ)
    (greeting : String) (limit : Nat) (exchange : Exchange σ) {events : List StreamEvent}
    (uninterrupted : Uninterrupted events) :
    serve first writer greeting limit exchange events =
      serve second writer greeting limit exchange events := by
  simp only [serve, converse, feed_of_uninterrupted first second writer limit _ _ uninterrupted]

/-! ## Two libraries -/

/-- A session by a library that tries interrupted reads again and one by a library that reports
them agree on a steady device and an uninterrupted stream, in the result, the sink and the
records; both are the session on the events of the stream, wherever the borders of chunks are. -/
theorem serveOn_agrees (steady : device.Steady) (blocking async : Port device)
    (greeting : String) (limit : Nat) (exchange : Exchange σ) (chunks : List Chunk)
    (uninterrupted : Uninterrupted (eventsOf chunks)) :
    serveOn blocking .retried greeting limit exchange chunks =
      serveOn async .reported greeting limit exchange chunks ∧
    serveOn blocking .retried greeting limit exchange chunks =
      serve .retried blocking.writer greeting limit exchange (eventsOf chunks) ∧
    serveOn async .reported greeting limit exchange chunks =
      serve .reported async.writer greeting limit exchange (eventsOf chunks) := by
  have blockingEq := serveOn_eq blocking .retried greeting limit exchange uninterrupted
  have asyncEq := serveOn_eq async .reported greeting limit exchange uninterrupted
  refine ⟨?_, blockingEq, asyncEq⟩
  rw [blockingEq, asyncEq,
    BufferWriter.writer_unique steady blocking.toBufferWriter async.toBufferWriter]
  exact serve_of_uninterrupted .retried .reported async.writer greeting limit exchange
    uninterrupted

end Conversation

end ListInvocation

namespace ListInvocation.Conversation

open ListInvocation.Wire

/-- A message in two chunks, and the beginning of another one. -/
def brokenOffChunks : List Chunk :=
  [.bytes (bytesOf "0000"), .bytes (bytesOf "01:x00"), .bytes [], .bytes (bytesOf "0005:ab")]

/-- A library with its own words for a missing byte, on a sink that takes three bytes in one
write. -/
def samplePort (missing : String) : Port (BoundedSink.device 3) where
  toBufferReader := byteReader missing
  toBufferWriter := BoundedSink.bufferWriter 3

/-- Libraries with different words for a missing byte agree on a message that is broken off,
and on a sink with room for the greeting and a part of the first response. -/
theorem serveOn_agrees_brokenOff :
    Uninterrupted (eventsOf brokenOffChunks) ∧
    ∀ room ∈ [some 40, none],
      serveOn (samplePort "failed to fill whole buffer") .retried "Slim -- V0.3\n" 64
          ⟨sampleConversation, [], ⟨[], room, false⟩⟩ brokenOffChunks =
        serveOn (samplePort "early eof") .reported "Slim -- V0.3\n" 64
          ⟨sampleConversation, [], ⟨[], room, false⟩⟩ brokenOffChunks := by
  have uninterrupted : Uninterrupted (eventsOf brokenOffChunks) := by
    unfold Uninterrupted
    decide
  exact ⟨uninterrupted, fun room _ =>
    (serveOn_agrees (BoundedSink.device_steady (by decide)) _ _ _ _ _ _ uninterrupted).1⟩

end ListInvocation.Conversation
