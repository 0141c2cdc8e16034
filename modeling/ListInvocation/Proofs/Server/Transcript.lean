import ListInvocation.Proofs.Server.Answer
import ListInvocation.Proofs.Server.Course
import ListInvocation.Platform

/-!
Contract: what a session writes, told by the messages on its stream.

A stream divides in one way only into the frames in front of its end, the closing message,
or a place where no frame stands. A session whose sink takes everything writes the greeting
and one frame for each of these messages, and nothing behind them has an effect.

Owns: the division of a stream, the one transcript of a session, and sinks that take
everything.

Does not own: sinks that fail, or what the responses hold.
-/

namespace ListInvocation

open ListInvocation.Wire

/-! ## Sinks that take everything -/

/-- A writer that takes every text on willing sinks, which stay willing. -/
structure Wire.Writer.Accepting {σ : Type} (writer : Writer σ) (willing : σ → Prop)
    (output : σ → List UInt8) : Prop where
  write : ∀ bytes sink, willing sink → ∃ next, writer.write bytes sink = (.ok (), next) ∧
    willing next ∧ output next = output sink ++ bytes
  flush : ∀ sink, willing sink → ∃ next, writer.flush sink = (.ok (), next) ∧
    willing next ∧ output next = output sink

namespace Wire.Writer.Accepting

variable {σ : Type} {writer : Writer σ} {willing : σ → Prop} {output : σ → List UInt8}

theorem send (accepting : writer.Accepting willing output) (text : String) {sink : σ}
    (ready : willing sink) :
    ∃ next, writer.send text sink = (.ok (), next) ∧ willing next ∧
      output next = output sink ++ bytesOf text := by
  obtain ⟨written, wrote, stillReady, grown⟩ := accepting.write (bytesOf text) sink ready
  obtain ⟨flushed, didFlush, lastReady, same⟩ := accepting.flush written stillReady
  exact ⟨flushed, by simp only [Writer.send, wrote, didFlush], lastReady, same.trans grown⟩

theorem sendAll (accepting : writer.Accepting willing output) (texts : List String) {sink : σ}
    (ready : willing sink) :
    ∃ final, writer.sendAll texts sink = (.ok (), final) ∧
      output final = output sink ++ texts.flatMap bytesOf := by
  induction texts generalizing sink with
  | nil => exact ⟨sink, rfl, (List.append_nil _).symm⟩
  | cons text texts inductionHypothesis =>
      obtain ⟨next, sent, stillReady, grown⟩ := accepting.send text ready
      obtain ⟨final, sentAll, grownAll⟩ := inductionHypothesis stillReady
      refine ⟨final, (Writer.sendAll_of_sent sent texts).trans sentAll, ?_⟩
      rw [grownAll, grown, List.append_assoc, List.flatMap_cons]

end Wire.Writer.Accepting

namespace Conversation

/-! ## The division of a stream -/

/-- What stands behind the messages of a stream. -/
inductive StreamEnd where
  /-- Nothing. -/
  | closed
  /-- The closing message. -/
  | bye
  /-- Something that does not begin with a frame. -/
  | unreadable
deriving Repr, DecidableEq

/-- How a stream divides into the payloads of its frames and what stands behind them. -/
inductive Divides (limit : Nat) : List StreamEvent → List String → StreamEnd → Prop where
  | closed : Divides limit [] [] .closed
  | bye {front : List UInt8} {rest : List StreamEvent} :
      IsFrame limit closingMessage front →
      Divides limit (front.map StreamEvent.byte ++ rest) [] .bye
  | unreadable {events : List StreamEvent} :
      events ≠ [] →
      (∀ payload front rest, IsFrame limit payload front →
        events ≠ front.map StreamEvent.byte ++ rest) →
      Divides limit events [] .unreadable
  | message {payload : String} {payloads : List String} {front : List UInt8}
      {rest : List StreamEvent} {last : StreamEnd} :
      IsFrame limit payload front → payload ≠ closingMessage →
      Divides limit rest payloads last →
      Divides limit (front.map StreamEvent.byte ++ rest) (payload :: payloads) last

/-- How the division of a stream follows from the first read. -/
inductive FollowsFrom (limit : Nat) :
    Except WireError (Option String) × List StreamEvent → List String → StreamEnd → Prop where
  | closed : FollowsFrom limit (.ok none, []) [] .closed
  | bye {rest : List StreamEvent} :
      FollowsFrom limit (.ok (some closingMessage), rest) [] .bye
  | unreadable {error : WireError} {rest : List StreamEvent} :
      FollowsFrom limit (.error error, rest) [] .unreadable
  | message {payload : String} {payloads : List String} {rest : List StreamEvent}
      {last : StreamEnd} :
      payload ≠ closingMessage → Divides limit rest payloads last →
      FollowsFrom limit (.ok (some payload), rest) (payload :: payloads) last

theorem Divides.followsFrom {limit : Nat} {events : List StreamEvent} {payloads : List String}
    {last : StreamEnd} (divides : Divides limit events payloads last)
    (uninterrupted : Uninterrupted events) (interruption : Interruption) :
    FollowsFrom limit (readFrame interruption limit events) payloads last := by
  cases divides with
  | closed => exact .closed
  | bye framed =>
      rw [readFrame_of_isFrame interruption framed]
      exact .bye
  | unreadable nonempty noFrame =>
      cases read : readFrame interruption limit events with
      | mk result rest =>
          cases result with
          | error error => exact .unreadable
          | ok payload? =>
              cases payload? with
              | none => exact absurd ((readFrame_eq_none_iff uninterrupted).mp read).1 nonempty
              | some payload =>
                  obtain ⟨front, split, framed⟩ := (readFrame_eq_some_iff uninterrupted).mp read
                  exact absurd split (noFrame payload front rest framed)
  | message framed notClosing divides =>
      rw [readFrame_of_isFrame interruption framed]
      exact .message notClosing divides

/-- A stream divides in one way only: every division follows from the same reads. -/
theorem Divides.unique {limit : Nat} {events : List StreamEvent}
    {payloads others : List String} {last otherLast : StreamEnd}
    (uninterrupted : Uninterrupted events) (first : Divides limit events payloads last)
    (second : Divides limit events others otherLast) :
    others = payloads ∧ otherLast = last := by
  induction payloads generalizing events others with
  | nil =>
      have firstFollows := first.followsFrom uninterrupted .retried
      have secondFollows := second.followsFrom uninterrupted .retried
      generalize readFrame .retried limit events = read at firstFollows secondFollows
      cases firstFollows <;> cases secondFollows
      case bye.message _ notClosing _ => exact absurd rfl notClosing
      all_goals exact ⟨rfl, rfl⟩
  | cons payload payloads inductionHypothesis =>
      have firstFollows := first.followsFrom uninterrupted .retried
      have secondFollows := second.followsFrom uninterrupted .retried
      cases read : readFrame .retried limit events with
      | mk result rest =>
          rw [read] at firstFollows secondFollows
          cases firstFollows with
          | message notClosing divides =>
              obtain ⟨front, split, _⟩ := (readFrame_eq_some_iff uninterrupted).mp read
              have restUninterrupted : Uninterrupted rest := (split ▸ uninterrupted).of_append
              cases secondFollows with
              | bye => exact absurd rfl notClosing
              | message _ otherDivides =>
                  obtain ⟨samePayloads, sameLast⟩ :=
                    inductionHypothesis restUninterrupted divides otherDivides
                  exact ⟨by rw [samePayloads], sameLast⟩

theorem Reads.uninterrupted {interruption : Interruption} {limit : Nat}
    {events rest : List StreamEvent} {payloads : List String}
    (reads : Reads interruption limit events payloads rest)
    (uninterrupted : Uninterrupted events) : Uninterrupted rest := by
  induction reads with
  | nil => exact uninterrupted
  | cons read _ inductionHypothesis =>
      obtain ⟨front, split, _⟩ := (readFrame_eq_some_iff uninterrupted).mp read
      exact inductionHypothesis (split ▸ uninterrupted).of_append

/-- Payloads that are read stand in frames in front of the rest. -/
theorem Reads.divides {interruption : Interruption} {limit : Nat}
    {events rest : List StreamEvent} {payloads : List String} {last : StreamEnd}
    (reads : Reads interruption limit events payloads rest)
    (uninterrupted : Uninterrupted events)
    (notClosing : ∀ payload ∈ payloads, payload ≠ closingMessage)
    (behind : Divides limit rest [] last) : Divides limit events payloads last := by
  induction reads with
  | nil => exact behind
  | @cons events _ _ payload payloads read _ inductionHypothesis =>
      obtain ⟨front, split, framed⟩ := (readFrame_eq_some_iff uninterrupted).mp read
      have restUninterrupted := (split ▸ uninterrupted).of_append
      rw [split]
      refine .message framed (notClosing payload List.mem_cons_self) ?_
      exact inductionHypothesis restUninterrupted
        (fun other member => notClosing other (List.mem_cons_of_mem payload member)) behind

/-- What stands behind the messages of a session that came to this ending with all it had to
send. -/
def Ending.streamEnd : Ending → StreamEnd
  | .closed => .closed
  | .bye => .bye
  | .failed _ => .unreadable

theorem Ends.divides {interruption : Interruption} {limit : Nat} {rest : List StreamEvent}
    {unread? : Option WireError} {ending : Ending}
    (ends : Ends interruption limit rest (.ok ()) unread? ending)
    (uninterrupted : Uninterrupted rest) : Divides limit rest [] ending.streamEnd := by
  have paired : ∀ result, (readFrame interruption limit rest).1 = result →
      readFrame interruption limit rest =
        (result, (readFrame interruption limit rest).2) :=
    fun result same => Prod.ext same rfl
  cases ends with
  | closed read =>
      obtain ⟨atEnd, _⟩ := (readFrame_eq_none_iff uninterrupted).mp (paired _ read)
      subst atEnd
      exact .closed
  | bye read =>
      obtain ⟨front, split, framed⟩ := (readFrame_eq_some_iff uninterrupted).mp (paired _ read)
      rw [split]
      exact .bye framed
  | unreadable read =>
      refine .unreadable ?_ ?_
      · intro atEnd
        subst atEnd
        cases read
      · intro payload front behind framed split
        rw [split, readFrame_of_isFrame interruption framed] at read
        cases read

theorem Ends.isSome_iff {interruption : Interruption} {limit : Nat} {rest : List StreamEvent}
    {unread? : Option WireError} {ending : Ending}
    (ends : Ends interruption limit rest (.ok ()) unread? ending) :
    unread?.isSome ↔ ending.streamEnd = .unreadable := by
  cases ends <;> simp [Ending.streamEnd]

theorem Ending.result_eq_ok_iff (ending : Ending) :
    ending.result = .ok () ↔ ending.streamEnd = .bye ∨ ending.streamEnd = .closed := by
  cases ending <;> simp [Ending.result, Ending.streamEnd]

/-! ## Transcripts -/

variable [Text.Alphabet]

theorem Answers.unique {conversation last otherLast : Conversation}
    {payloads responses otherResponses : List String} {records otherRecords : List AuditRecord}
    (first : Answers conversation payloads responses records last)
    (second : Answers conversation payloads otherResponses otherRecords otherLast) :
    otherResponses = responses ∧ otherRecords = records ∧ otherLast = last := by
  induction first generalizing otherResponses otherRecords with
  | nil =>
      cases second
      exact ⟨rfl, rfl, rfl⟩
  | cons handled _ inductionHypothesis =>
      cases second with
      | cons otherHandled others =>
          rw [handled] at otherHandled
          cases otherHandled
          obtain ⟨sameResponses, sameRecords, sameLast⟩ := inductionHypothesis others
          exact ⟨by rw [sameResponses], by rw [sameRecords], sameLast⟩

/-- A session as the messages on its stream tell it. -/
structure Transcript (conversation : Conversation) (limit : Nat)
    (events : List StreamEvent) where
  payloads : List String
  streamEnd : StreamEnd
  divides : Divides limit events payloads streamEnd
  responses : List String
  records : List AuditRecord
  after : Conversation
  answers : Answers conversation payloads responses records after

theorem Transcript.unique {conversation : Conversation} {limit : Nat}
    {events : List StreamEvent} (uninterrupted : Uninterrupted events)
    (first second : Transcript conversation limit events) : second = first := by
  obtain ⟨payloads, streamEnd, divides, responses, records, after, answers⟩ := first
  obtain ⟨others, otherEnd, otherDivides, otherResponses, otherRecords, otherAfter,
    otherAnswers⟩ := second
  obtain ⟨samePayloads, sameEnd⟩ := divides.unique uninterrupted otherDivides
  subst samePayloads sameEnd
  obtain ⟨sameResponses, sameRecords, sameAfter⟩ := answers.unique otherAnswers
  subst sameResponses sameRecords sameAfter
  rfl

/-- A session writes the greeting and then, frame by frame, its responses to the messages in
front of the end of the stream, the closing message or the first place where no frame stands.
It is concluded in the state that these messages leave, and successfully exactly when it was
closed in one of the first two ways. -/
theorem serve_transcript {σ : Type} {writer : Writer σ} {willing : σ → Prop}
    {output : σ → List UInt8} (accepting : writer.Accepting willing output)
    (conversation : Conversation) (records : List AuditRecord) (greeting : String)
    (limit : Nat) (sink : σ) (ready : willing sink) (events : List StreamEvent) :
    ∃ transcript : Transcript conversation limit (undisturbed events),
      (∀ other : Transcript conversation limit (undisturbed events), other = transcript) ∧
      ∃ result final,
        serve .retried writer greeting limit ⟨conversation, records, sink⟩ events =
          (result, final) ∧
        output final.sink = output sink ++ bytesOf greeting ++
          transcript.responses.flatMap (fun response => bytesOf (frame response)) ∧
        (result = .ok () ↔ transcript.streamEnd = .bye ∨ transcript.streamEnd = .closed) ∧
        ∃ (ending : Ending) (unread? : Option WireError),
          (result, final) = conclude ending
            ⟨transcript.after,
              records ++ transcript.records ++
                (unread?.map transcript.after.rejectFrame).toList, final.sink⟩ ∧
          ending.streamEnd = transcript.streamEnd ∧
          (unread?.isSome ↔ transcript.streamEnd = .unreadable) := by
  have uninterrupted := uninterrupted_undisturbed events
  obtain ⟨course, served⟩ := serve_course .retried writer greeting limit
    ⟨conversation, records, sink⟩ (undisturbed events)
  obtain ⟨final, sentAll, written⟩ :=
    accepting.sendAll ([greeting] ++ course.responses.map frame) ready
  rw [course.sends] at sentAll
  obtain ⟨sent, sameSink⟩ := Prod.mk.inj sentAll
  have ends := course.ends
  rw [sent] at ends
  let transcript : Transcript conversation limit (undisturbed events) :=
    { payloads := course.payloads
      streamEnd := course.ending.streamEnd
      divides := course.reads.divides uninterrupted course.answers.ne_closing
        (ends.divides (course.reads.uninterrupted uninterrupted))
      responses := course.responses
      records := course.records
      after := course.last
      answers := course.answers }
  refine ⟨transcript, fun other => transcript.unique uninterrupted other, _, _,
    (serve_undisturbed writer greeting limit _ events).trans served, ?_,
    course.ending.result_eq_ok_iff, course.ending, course.unread?, rfl, rfl, ends.isSome_iff⟩
  change output course.sink = _
  rw [sameSink, written, List.singleton_append, List.flatMap_cons, List.flatMap_map,
    List.append_assoc]

end Conversation

end ListInvocation

namespace ListInvocation.Conversation

open ListInvocation.Wire

/-- A message that is no list, the closing message, and a message behind it. -/
def closedStream : List UInt8 :=
  bytesOf (frame "x") ++ (bytesOf (frame "bye") ++ bytesOf (frame "y"))

theorem divides_closedStream :
    Divides 8 (closedStream.map StreamEvent.byte) ["x"] .bye := by
  have message : IsFrame 8 "x" (bytesOf (frame "x")) := isFrame_frame (by decide) (by decide)
  have closing : IsFrame 8 closingMessage (bytesOf (frame "bye")) :=
    isFrame_frame (by decide) (by decide)
  rw [closedStream, List.map_append, List.map_append]
  exact .message message (by decide) (.bye closing)

theorem accepting_unlimited :
    BoundedSink.writer.Accepting (fun sink => sink.room = none ∧ sink.flushFails = false)
      BoundedSink.accepted where
  write bytes sink ready := by
    refine ⟨{ sink with accepted := sink.accepted ++ bytes }, ?_, ready, rfl⟩
    simp only [BoundedSink.writer, BoundedSink.write, ready.1]
  flush sink ready := by
    refine ⟨sink, ?_, ready, rfl⟩
    simp [BoundedSink.writer, BoundedSink.flush, ready.2]

/-- The session ends without an error, and has answered exactly the message in front of the
closing one. -/
theorem serve_transcript_closedStream :
    ∃ response records after final,
      Answers sampleConversation ["x"] [response] records after ∧
      serve .retried BoundedSink.writer "Slim -- V0.3\n" 8
        ⟨sampleConversation, [], BoundedSink.unlimited⟩ (closedStream.map StreamEvent.byte) =
          (.ok (), final) ∧
      final.sink.accepted = bytesOf "Slim -- V0.3\n" ++ bytesOf (frame response) := by
  obtain ⟨transcript, _, result, final, served, written, successful, _⟩ :=
    serve_transcript accepting_unlimited sampleConversation [] "Slim -- V0.3\n" 8
      BoundedSink.unlimited ⟨rfl, rfl⟩ (closedStream.map StreamEvent.byte)
  have uninterrupted := uninterrupted_undisturbed (closedStream.map StreamEvent.byte)
  have divides := divides_closedStream
  rw [← undisturbed_bytes] at divides
  obtain ⟨samePayloads, sameEnd⟩ := divides.unique uninterrupted transcript.divides
  have answers := transcript.answers
  rw [samePayloads] at answers
  obtain ⟨response, single⟩ := List.length_eq_one_iff.mp answers.length_eq
  rw [single] at answers written
  refine ⟨response, transcript.records, transcript.after, final, answers, ?_, ?_⟩
  · rw [served, successful.mpr (.inl sameEnd)]
  · rw [written]
    simp [BoundedSink.unlimited]

end ListInvocation.Conversation
