import ListInvocation.Session
import ListInvocation.Wire.Frame
import ListInvocation.Server.Audit
import ListInvocation.Server.Error

/-!
Contract: one session as a caller meets it, message by message and as a byte stream.

Every message but the closing one is answered; a message that is no list is answered by
one entry that says so. A frame that cannot be read ends the session. Each step yields
the audit records that it causes.

Owns: the answers to messages, the loop over a stream, and the trail of a session.

Does not own: how sessions are numbered, or where the records go.
-/

namespace ListInvocation

structure Conversation where
  session : Session
  context : AuditContext
  messages : Nat

inductive Reply where
  | respond (payload : String)
  /-- The caller asked to end the session. -/
  | finish
deriving Repr, DecidableEq

namespace Conversation

variable [Text.Alphabet]

def closingMessage : String := "bye"

def record (conversation : Conversation) (event : AuditEvent) : AuditRecord :=
  ⟨conversation.context, event⟩

def start (session : Session) (context : AuditContext) : Conversation × AuditRecord :=
  let conversation : Conversation := ⟨session, context, 0⟩
  (conversation, conversation.record .sessionStarted)

def rejection (session : Session) (error : Wire.WireError) : Tree String :=
  let failure := Failure.malformedInstruction [error.message]
  .list [.list [.text "", session.composeFailure failure]]

/-- Answers a message, with the records that this causes. -/
def handle (conversation : Conversation) (payload : String) :
    Reply × List AuditRecord × Conversation :=
  if payload = closingMessage then (.finish, [], conversation)
  else
    let index := conversation.messages + 1
    match Wire.decode payload with
    | .ok batch =>
        let (outcome, session) := conversation.session.execute batch
        let response := Wire.encode outcome.results
        let stats : MessageStats :=
          { messageIndex := index
            instructions := outcome.executed
            failures := outcome.failures
            requestBytes := payload.utf8ByteSize
            responseBytes := response.utf8ByteSize }
        (.respond response, [conversation.record (.messageProcessed stats)],
          { conversation with session := session, messages := index })
    | .error error =>
        ( .respond (Wire.encode (rejection conversation.session error)),
          [conversation.record (.messageRejected index error.label error.message
            (some payload.utf8ByteSize))],
          { conversation with messages := index })

def rejectFrame (conversation : Conversation) (error : Wire.WireError) : AuditRecord :=
  conversation.record
    (.messageRejected (conversation.messages + 1) error.label error.message none)

def finish (conversation : Conversation) (reason : String) (error? : Option String) :
    AuditRecord × Conversation :=
  ( conversation.record (.sessionEnded conversation.messages reason error?),
    { conversation with session := conversation.session.finish })

inductive Ending where
  /-- The stream ended between two frames. -/
  | closed
  /-- The caller asked for it. -/
  | bye
  | failed (error : ServerError)
deriving Repr, DecidableEq

namespace Ending

def reason : Ending → String
  | .closed => "closed"
  | .bye => "bye"
  | .failed _ => "transport_error"

def error? : Ending → Option String
  | .failed error => some error.message
  | .closed | .bye => none

def result : Ending → Except ServerError Unit
  | .failed error => .error error
  | .closed | .bye => .ok ()

end Ending

/-- A session on a stream: its state, the records so far, and the sink that it writes to. -/
structure Exchange (σ : Type) where
  conversation : Conversation
  records : List AuditRecord
  sink : σ

/-- Sends a text; a failure ends the session. -/
def sendText {σ : Type} (writer : Wire.Writer σ) (text : String) (exchange : Exchange σ) :
    Option Ending × Exchange σ :=
  match writer.send text exchange.sink with
  | (.ok (), sink) => (none, { exchange with sink := sink })
  | (.error error, sink) => (some (.failed (.ofWire error)), { exchange with sink := sink })

def answer {σ : Type} (writer : Wire.Writer σ) (payload : String) (exchange : Exchange σ) :
    Option Ending × Exchange σ :=
  let (reply, records, conversation) := exchange.conversation.handle payload
  let exchange : Exchange σ :=
    { exchange with
      conversation := conversation
      records := exchange.records ++ records }
  match reply with
  | .finish => (some .bye, exchange)
  | .respond response => sendText writer (Wire.frame response) exchange

/-- Ends a session because of a frame that could not be read. -/
def breakOff {σ : Type} (error : Wire.WireError) (exchange : Exchange σ) :
    Ending × Exchange σ :=
  ( .failed (.ofWire error),
    { exchange with
      records := exchange.records ++ [exchange.conversation.rejectFrame error] })

/-- Takes events and answers the frames that they complete. Without an ending the reader
waits for more events. -/
def feed {σ : Type} (interruption : Wire.Interruption) (writer : Wire.Writer σ)
    (limit : Nat) (reader : Wire.FrameReader) (exchange : Exchange σ) :
    List Wire.StreamEvent → Option Ending × Wire.FrameReader × Exchange σ
  | [] => (none, reader, exchange)
  | event :: events =>
      match reader.step interruption limit event with
      | (reader, none) => feed interruption writer limit reader exchange events
      | (reader, some (.error error)) =>
          let (ending, exchange) := breakOff error exchange
          (some ending, reader, exchange)
      | (reader, some (.ok payload)) =>
          match answer writer payload exchange with
          | (some ending, exchange) => (some ending, reader, exchange)
          | (none, exchange) => feed interruption writer limit reader exchange events

def meetEnd {σ : Type} (reader : Wire.FrameReader) (exchange : Exchange σ) :
    Ending × Exchange σ :=
  match reader.atEnd with
  | none => (.closed, exchange)
  | some error => breakOff error exchange

def converse {σ : Type} (interruption : Wire.Interruption) (writer : Wire.Writer σ)
    (limit : Nat) (exchange : Exchange σ) (events : List Wire.StreamEvent) :
    Ending × Exchange σ :=
  match feed interruption writer limit .start exchange events with
  | (some ending, _, exchange) => (ending, exchange)
  | (none, reader, exchange) => meetEnd reader exchange

def conclude {σ : Type} (ending : Ending) (exchange : Exchange σ) :
    Except ServerError Unit × Exchange σ :=
  let (record, conversation) := exchange.conversation.finish ending.reason ending.error?
  ( ending.result,
    { exchange with
      conversation := conversation
      records := exchange.records ++ [record] })

/-- Runs a whole session: the greeting, then the frames of the stream. -/
def serve {σ : Type} (interruption : Wire.Interruption) (writer : Wire.Writer σ)
    (greeting : String) (limit : Nat) (exchange : Exchange σ)
    (events : List Wire.StreamEvent) : Except ServerError Unit × Exchange σ :=
  match sendText writer greeting exchange with
  | (some ending, exchange) => conclude ending exchange
  | (none, exchange) =>
      let (ending, exchange) :=
        converse interruption writer limit exchange events
      conclude ending exchange

end Conversation

end ListInvocation
