import ListInvocation.Server.Conversation
import ListInvocation.Proofs.Wire.Frame

/-!
Contract: the course of a session on a stream.

A session reads frames one after another, answers each before it reads the next, and ends
for one of four reasons. Everything that a session does is told by its course: the payloads
it read, the responses to them, what became of sending these, and the reason of its end.

Owns: the loop as one read after another, answers in a row, and the course of every session.

Does not own: which bytes form a frame, or what the records of a course say.
-/

namespace ListInvocation

open ListInvocation.Wire

/-! ## Sending texts in a row -/

/-- Sends texts one after another, up to the first failure. -/
def Wire.Writer.sendAll {σ : Type} (writer : Writer σ) :
    List String → σ → Except WireError Unit × σ
  | [], sink => (.ok (), sink)
  | text :: texts, sink =>
      match writer.send text sink with
      | (.ok (), sink) => writer.sendAll texts sink
      | (.error error, sink) => (.error error, sink)

theorem Wire.Writer.sendAll_of_sent {σ : Type} {writer : Writer σ} {text : String} {sink next : σ}
    (sent : writer.send text sink = (.ok (), next)) (texts : List String) :
    writer.sendAll (text :: texts) sink = writer.sendAll texts next := by
  rw [sendAll, sent]

theorem Wire.Writer.sendAll_of_failed {σ : Type} {writer : Writer σ} {text : String}
    {sink next : σ} {error : WireError} (failed : writer.send text sink = (.error error, next))
    (texts : List String) : writer.sendAll (text :: texts) sink = (.error error, next) := by
  rw [sendAll, failed]

variable [Text.Alphabet]

namespace Conversation

/-! ## Answers in a row -/

theorem handle_closing (conversation : Conversation) :
    conversation.handle closingMessage = (.finish, [], conversation) := rfl

theorem handle_responds (conversation : Conversation) {payload : String}
    (notClosing : payload ≠ closingMessage) :
    ∃ response records next,
      conversation.handle payload = (.respond response, records, next) := by
  unfold handle
  rw [if_neg notClosing]
  cases decode payload <;> exact ⟨_, _, _, rfl⟩

/-- The responses to some payloads, each given in the state that those before it left, with
the records that they cause and the state at the end. -/
inductive Answers :
    Conversation → List String → List String → List AuditRecord → Conversation → Prop where
  | nil {conversation : Conversation} : Answers conversation [] [] [] conversation
  | cons {conversation next last : Conversation} {payload response : String}
      {payloads responses : List String} {records later : List AuditRecord} :
      conversation.handle payload = (.respond response, records, next) →
      Answers next payloads responses later last →
      Answers conversation (payload :: payloads) (response :: responses) (records ++ later) last

theorem Answers.length_eq {conversation last : Conversation} {payloads responses : List String}
    {records : List AuditRecord}
    (answers : Answers conversation payloads responses records last) :
    responses.length = payloads.length := by
  induction answers with
  | nil => rfl
  | cons _ _ inductionHypothesis =>
      rw [List.length_cons, List.length_cons, inductionHypothesis]

/-- What is answered is not the closing message. -/
theorem Answers.ne_closing {conversation last : Conversation}
    {payloads responses : List String} {records : List AuditRecord}
    (answers : Answers conversation payloads responses records last) :
    ∀ payload ∈ payloads, payload ≠ closingMessage := by
  induction answers with
  | nil => nofun
  | cons handled _ inductionHypothesis =>
      intro payload member
      rcases List.mem_cons.mp member with same | later
      · subst same
        intro closing
        rw [closing, handle_closing] at handled
        cases handled
      · exact inductionHypothesis payload later

/-! ## One read after another -/

variable {σ : Type}

/-- What a session does when a read of a frame has come to its end. -/
def afterRead (interruption : Interruption) (writer : Writer σ) (limit : Nat)
    (exchange : Exchange σ) :
    Except WireError (Option String) × List StreamEvent → Ending × Exchange σ
  | (.ok none, _) => (.closed, exchange)
  | (.error error, _) => breakOff error exchange
  | (.ok (some payload), events) =>
      match answer writer payload exchange with
      | (some ending, exchange) => (ending, exchange)
      | (none, exchange) => converse interruption writer limit exchange events

/-- The rest of a session whose reader may be in the middle of a frame. -/
def resume (interruption : Interruption) (writer : Writer σ) (limit : Nat)
    (reader : FrameReader) (exchange : Exchange σ) (events : List StreamEvent) :
    Ending × Exchange σ :=
  match feed interruption writer limit reader exchange events with
  | (some ending, _, exchange) => (ending, exchange)
  | (none, reader, exchange) => meetEnd reader exchange

theorem resume_eq (interruption : Interruption) (writer : Writer σ) (limit : Nat)
    (reader : FrameReader) (exchange : Exchange σ) (events : List StreamEvent) :
    resume interruption writer limit reader exchange events =
      afterRead interruption writer limit exchange
        (reader.read interruption limit events) := by
  induction events generalizing reader with
  | nil =>
      simp only [resume, feed, meetEnd, FrameReader.read]
      cases reader.atEnd <;> rfl
  | cons event events inductionHypothesis =>
      cases stepped : reader.step interruption limit event with
      | mk next result? =>
          cases result? with
          | none =>
              simp only [resume, feed, FrameReader.read, stepped]
              exact inductionHypothesis next
          | some result =>
              cases result with
              | error error => simp only [resume, feed, FrameReader.read, stepped, afterRead]
              | ok payload =>
                  have next_eq := FrameReader.step_eq_start stepped
                  subst next_eq
                  simp only [resume, feed, FrameReader.read, stepped, afterRead]
                  cases answer writer payload exchange with
                  | mk ending? exchange => cases ending? <;> rfl

/-- A session reads a frame, answers it and goes on behind it. -/
theorem converse_eq (interruption : Interruption) (writer : Writer σ) (limit : Nat)
    (exchange : Exchange σ) (events : List StreamEvent) :
    converse interruption writer limit exchange events =
      afterRead interruption writer limit exchange (readFrame interruption limit events) :=
  resume_eq interruption writer limit .start exchange events

theorem feed_undisturbed (writer : Writer σ) (limit : Nat) (reader : FrameReader)
    (exchange : Exchange σ) (events : List StreamEvent) :
    feed .retried writer limit reader exchange events =
      feed .retried writer limit reader exchange (undisturbed events) := by
  induction events generalizing reader exchange with
  | nil => rfl
  | cons event events inductionHypothesis =>
      unfold undisturbed
      by_cases lasting : event.isLasting = true
      · rw [List.filter_cons_of_pos lasting]
        simp only [feed, inductionHypothesis]
        rfl
      · rw [List.filter_cons_of_neg lasting]
        simp only [feed, reader.step_interrupted limit lasting]
        exact inductionHypothesis reader exchange

/-- Where interrupted reads are tried again, a session is the same without them. -/
theorem serve_undisturbed (writer : Writer σ) (greeting : String) (limit : Nat)
    (exchange : Exchange σ) (events : List StreamEvent) :
    serve .retried writer greeting limit exchange events =
      serve .retried writer greeting limit exchange (undisturbed events) := by
  simp only [serve, converse, feed_undisturbed writer limit .start _ events]

/-! ## The course of a session -/

/-- The payloads that are read from a stream one after another, and the stream behind. -/
inductive Reads (interruption : Interruption) (limit : Nat) :
    List StreamEvent → List String → List StreamEvent → Prop where
  | nil {events : List StreamEvent} : Reads interruption limit events [] events
  | cons {events rest last : List StreamEvent} {payload : String} {payloads : List String} :
      readFrame interruption limit events = (.ok (some payload), rest) →
      Reads interruption limit rest payloads last →
      Reads interruption limit events (payload :: payloads) last

/-- How a session ends, by what became of sending and by what is read then: the reason, and
the failure of a frame that could not be read. -/
inductive Ends (interruption : Interruption) (limit : Nat) (rest : List StreamEvent) :
    Except WireError Unit → Option WireError → Ending → Prop where
  | closed :
      (readFrame interruption limit rest).1 = .ok none →
      Ends interruption limit rest (.ok ()) none .closed
  | bye :
      (readFrame interruption limit rest).1 = .ok (some closingMessage) →
      Ends interruption limit rest (.ok ()) none .bye
  | unreadable {error : WireError} :
      (readFrame interruption limit rest).1 = .error error →
      Ends interruption limit rest (.ok ()) (some error) (.failed (.ofWire error))
  | unsent {error : WireError} :
      Ends interruption limit rest (.error error) none (.failed (.ofWire error))

/-- All that happens in a session: which payloads are read and answered, what is sent behind
some opening texts, and how it ends. -/
structure Course (interruption : Interruption) (writer : Writer σ) (limit : Nat)
    (opening : List String) (before : Exchange σ) (events : List StreamEvent) where
  payloads : List String
  responses : List String
  records : List AuditRecord
  last : Conversation
  answers : Answers before.conversation payloads responses records last
  rest : List StreamEvent
  reads : Reads interruption limit events payloads rest
  sent : Except WireError Unit
  sink : σ
  sends : writer.sendAll (opening ++ responses.map frame) before.sink = (sent, sink)
  unread? : Option WireError
  ending : Ending
  ends : Ends interruption limit rest sent unread? ending

variable {interruption : Interruption} {writer : Writer σ} {limit : Nat}

/-- What a course leaves behind, before the session is concluded. -/
def Course.after {opening : List String} {before : Exchange σ} {events : List StreamEvent}
    (course : Course interruption writer limit opening before events) : Exchange σ where
  conversation := course.last
  records := before.records ++ course.records ++
    (course.unread?.map course.last.rejectFrame).toList
  sink := course.sink

/-- A course with one more payload in front, read, answered and sent. -/
def Course.cons {before : Exchange σ} {next : Conversation} {sink : σ}
    {events rest : List StreamEvent} {payload response : String} {records : List AuditRecord}
    (read : readFrame interruption limit events = (.ok (some payload), rest))
    (handled : before.conversation.handle payload = (.respond response, records, next))
    (sent : writer.send (frame response) before.sink = (.ok (), sink))
    (course : Course interruption writer limit [] ⟨next, before.records ++ records, sink⟩ rest) :
    Course interruption writer limit [] before events :=
  { course with
    payloads := payload :: course.payloads
    responses := response :: course.responses
    records := records ++ course.records
    answers := .cons handled course.answers
    reads := .cons read course.reads
    sends := by
      rw [← course.sends]
      exact Writer.sendAll_of_sent sent (course.responses.map frame) }

theorem Course.after_cons {before : Exchange σ} {next : Conversation} {sink : σ}
    {events rest : List StreamEvent} {payload response : String} {records : List AuditRecord}
    (read : readFrame interruption limit events = (.ok (some payload), rest))
    (handled : before.conversation.handle payload = (.respond response, records, next))
    (sent : writer.send (frame response) before.sink = (.ok (), sink))
    (course : Course interruption writer limit [] ⟨next, before.records ++ records, sink⟩ rest) :
    (course.cons read handled sent).after = course.after := by
  simp only [after, cons, List.append_assoc]

def Course.done {opening : List String} {before : Exchange σ} {events : List StreamEvent}
    {sent : Except WireError Unit} {sink : σ} {unread? : Option WireError} {ending : Ending}
    (sends : writer.sendAll opening before.sink = (sent, sink))
    (ends : Ends interruption limit events sent unread? ending) :
    Course interruption writer limit opening before events where
  payloads := []
  responses := []
  records := []
  last := before.conversation
  answers := .nil
  rest := events
  reads := .nil
  sent := sent
  sink := sink
  sends := by rwa [List.map_nil, List.append_nil]
  unread? := unread?
  ending := ending
  ends := ends

/-- A course of one payload whose response could not be sent. -/
def Course.unsent {before : Exchange σ} {next : Conversation} {sink : σ}
    {events rest : List StreamEvent} {payload response : String} {records : List AuditRecord}
    {error : WireError}
    (read : readFrame interruption limit events = (.ok (some payload), rest))
    (handled : before.conversation.handle payload = (.respond response, records, next))
    (failed : writer.send (frame response) before.sink = (.error error, sink)) :
    Course interruption writer limit [] before events where
  payloads := [payload]
  responses := [response]
  records := records ++ []
  last := next
  answers := .cons handled .nil
  rest := rest
  reads := .cons read .nil
  sent := .error error
  sink := sink
  sends := Writer.sendAll_of_failed failed []
  unread? := none
  ending := .failed (.ofWire error)
  ends := .unsent

/-- Every session has a course. The induction is on the length of the stream, which every
payload shortens. -/
theorem converse_course (interruption : Interruption) (writer : Writer σ) (limit : Nat)
    (before : Exchange σ) (events : List StreamEvent) :
    ∃ course : Course interruption writer limit [] before events,
      converse interruption writer limit before events = (course.ending, course.after) := by
  induction size : events.length using Nat.strongRecOn generalizing before events with
  | ind _ inductionHypothesis =>
      subst size
      rw [converse_eq]
      cases read : readFrame interruption limit events with
      | mk result rest =>
          have readResult := congrArg Prod.fst read
          cases result with
          | error error =>
              refine ⟨.done rfl (.unreadable readResult), ?_⟩
              simp [afterRead, breakOff, Course.done, Course.after]
          | ok payload? =>
              cases payload? with
              | none =>
                  refine ⟨.done rfl (.closed readResult), ?_⟩
                  simp [afterRead, Course.done, Course.after]
              | some payload =>
                  by_cases closing : payload = closingMessage
                  · subst closing
                    refine ⟨.done rfl (.bye readResult), ?_⟩
                    simp [afterRead, answer, handle_closing, Course.done, Course.after]
                  · obtain ⟨response, records, next, handled⟩ :=
                      before.conversation.handle_responds closing
                    simp only [afterRead, answer, handled, sendText]
                    cases sent : writer.send (frame response) before.sink with
                    | mk result sink =>
                        cases result with
                        | error error =>
                            refine ⟨.unsent read handled sent, ?_⟩
                            simp [Course.unsent, Course.after]
                        | ok =>
                            obtain ⟨course, same⟩ := inductionHypothesis rest.length
                              (FrameReader.length_lt_of_read read)
                              ⟨next, before.records ++ records, sink⟩ rest rfl
                            refine ⟨course.cons read handled sent, ?_⟩
                            rw [course.after_cons read handled sent]
                            exact same

/-- Every session with a greeting has a course, after which it is concluded. -/
theorem serve_course (interruption : Interruption) (writer : Writer σ) (greeting : String)
    (limit : Nat) (before : Exchange σ) (events : List StreamEvent) :
    ∃ course : Course interruption writer limit [greeting] before events,
      serve interruption writer greeting limit before events =
        conclude course.ending course.after := by
  simp only [serve, sendText]
  cases sent : writer.send greeting before.sink with
  | mk result sink =>
      cases result with
      | error error =>
          refine ⟨.done (Writer.sendAll_of_failed sent []) .unsent, ?_⟩
          simp [Course.done, Course.after]
      | ok =>
          obtain ⟨course, same⟩ :=
            converse_course interruption writer limit { before with sink := sink } events
          have sends := (Writer.sendAll_of_sent sent _).trans course.sends
          refine ⟨{ course with sends := sends }, ?_⟩
          simp only [same]
          rfl

end Conversation

end ListInvocation
