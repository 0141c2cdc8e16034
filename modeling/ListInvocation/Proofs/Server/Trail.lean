import Mathlib.Data.List.Forall2
import ListInvocation.Proofs.Server.Course

/-!
Contract: the records of a session on a stream.

A session is recorded from its start to its end, however it ends: one record for each
message, numbered from one, at most one for a frame that could not be read, and a last one
that says why it ended.

Owns: which record belongs to a message, the numbering, and the trail of every session.

Does not own: what is written to the sink, or the line of a record.
-/

namespace ListInvocation

open ListInvocation.Wire

/-- Whether an event records a message: under its index, with the size of its payload, and
as processed exactly when it is a list. -/
def AuditEvent.IsOf (index : Nat) (payload : String) : AuditEvent → Prop
  | .messageProcessed stats =>
      stats.messageIndex = index ∧ stats.requestBytes = payload.utf8ByteSize ∧
        ∃ batch, decode payload = .ok batch
  | .messageRejected messageIndex errorKind error requestBytes? =>
      messageIndex = index ∧ requestBytes? = some payload.utf8ByteSize ∧
        ∃ cause, decode payload = .error cause ∧ errorKind = cause.label ∧
          error = cause.message
  | .sessionStarted | .sessionEnded _ _ _ | .acceptFailed _ _ => False

namespace Conversation

/-! ## The records of messages -/

/-- A message that is answered is recorded once, and counted. -/
theorem record_of_handle [Text.Alphabet] {conversation next : Conversation}
    {payload response : String} {records : List AuditRecord}
    (handled : conversation.handle payload = (.respond response, records, next)) :
    ∃ event : AuditEvent,
      records = [⟨conversation.context, event⟩] ∧
        event.IsOf (conversation.messages + 1) payload ∧
        next.messages = conversation.messages + 1 ∧ next.context = conversation.context := by
  unfold handle at handled
  split at handled
  next => cases handled
  next =>
    split at handled
    next batch decoded =>
      cases handled
      exact ⟨_, rfl, ⟨rfl, rfl, batch, decoded⟩, rfl, rfl⟩
    next error undecodable =>
      cases handled
      exact ⟨_, rfl, ⟨rfl, rfl, error, undecodable, rfl, rfl⟩, rfl, rfl⟩

/-- Messages in a row are recorded in a row, under the numbers behind those already given. -/
theorem Answers.recorded [Text.Alphabet] {conversation last : Conversation}
    {payloads responses : List String} {records : List AuditRecord}
    (answers : Answers conversation payloads responses records last) :
    ∃ messages : List AuditEvent,
      records = messages.map (AuditRecord.mk conversation.context) ∧
        List.Forall₂ (fun message event => event.IsOf message.2 message.1)
          (payloads.zipIdx (conversation.messages + 1)) messages ∧
        last.messages = conversation.messages + payloads.length ∧
        last.context = conversation.context := by
  induction answers with
  | nil => exact ⟨[], rfl, .nil, rfl, rfl⟩
  | @cons conversation next _ payload _ payloads _ _ _ handled _ inductionHypothesis =>
      obtain ⟨event, single, isOf, counted, sameContext⟩ := record_of_handle handled
      obtain ⟨messages, later, numbered, total, lastContext⟩ := inductionHypothesis
      rw [counted, sameContext] at *
      refine ⟨event :: messages, ?_, ?_, ?_, lastContext⟩
      · rw [single, later]
        rfl
      · rw [List.zipIdx_cons]
        exact .cons isOf numbered
      · rw [total, List.length_cons]
        omega

/-! ## The trail -/

/-- The records of a session, with what they are records of. -/
structure Trail [Text.Alphabet] {σ : Type} (interruption : Interruption) (writer : Writer σ)
    (greeting : String) (limit : Nat) (session : Session) (context : AuditContext) (sink : σ)
    (events : List StreamEvent) (result : Except ServerError Unit) (final : Exchange σ) where
  /-- The payloads that were read and answered, and the responses to them. -/
  payloads : List String
  responses : List String
  /-- The events of these messages. -/
  messages : List AuditEvent
  last : Conversation
  answers : Answers (start session context).1 payloads responses
    (messages.map (AuditRecord.mk context)) last
  concluded : final.conversation = { last with session := last.session.finish }
  /-- The stream behind these messages. -/
  rest : List StreamEvent
  reads : Reads interruption limit events payloads rest
  numbered : List.Forall₂ (fun message event => event.IsOf message.2 message.1)
    (payloads.zipIdx 1) messages
  /-- The failure of a frame that could not be read. -/
  unread? : Option WireError
  reason : String
  error? : Option String
  records : final.records =
    (AuditEvent.sessionStarted :: messages ++
      (unread?.map fun error => AuditEvent.messageRejected (payloads.length + 1) error.label
        error.message none).toList ++
      [AuditEvent.sessionEnded payloads.length reason error?]).map (AuditRecord.mk context)
  /-- A frame could not be read: all before it was sent, and reading it failed. -/
  unread?_eq_some_iff : ∀ error, unread? = some error ↔
    (writer.sendAll (greeting :: responses.map frame) sink).1 = .ok () ∧
      (readFrame interruption limit rest).1 = .error error
  reasons : reason = "bye" ∨ reason = "closed" ∨ reason = "transport_error"
  error?_isSome_iff : error?.isSome ↔ reason = "transport_error"
  result_eq_error_iff : (∃ error, result = .error error) ↔ reason = "transport_error"
  error?_eq : ∀ error, result = .error error → error? = some error.message
  /-- A session that did not fail has sent a frame for each of its messages. -/
  sent : reason ≠ "transport_error" →
    responses.length = payloads.length ∧
      writer.sendAll (greeting :: responses.map frame) sink = (.ok (), final.sink)
  /-- It then read the closing message or the end of the stream. -/
  reason_eq_bye : reason = "bye" →
    (readFrame interruption limit rest).1 = .ok (some closingMessage)
  reason_eq_closed : reason = "closed" → (readFrame interruption limit rest).1 = .ok none

theorem Ends.unread?_eq_some_iff {interruption : Interruption} {limit : Nat}
    {rest : List StreamEvent} {sent : Except WireError Unit} {unread? : Option WireError}
    {ending : Ending} (ends : Ends interruption limit rest sent unread? ending)
    (error : WireError) :
    unread? = some error ↔
      sent = .ok () ∧ (readFrame interruption limit rest).1 = .error error := by
  cases ends with
  | closed read => simp [read]
  | bye read => simp [read]
  | unreadable read => simp [read]
  | unsent => simp

variable [Text.Alphabet]

end Conversation

end ListInvocation
