import ListInvocation.Wire.Error

/-!
Contract: byte streams, as the events that reading and writing can meet.

A stream is read as a sequence of bytes and failures; a read never crosses the border
of a chunk, so borders can be forgotten. A sink takes bytes until it refuses, and is
flushed after each text.

Owns: the events, chunks, the two ways to treat an interruption, and writers with the
sink that has limited room.

Does not own: frames.
-/

namespace ListInvocation.Wire

inductive ReadFailureKind where
  | interrupted
  | unexpectedEnd
  | other
deriving Repr, DecidableEq

structure ReadFailure where
  kind : ReadFailureKind
  description : String
deriving Repr, DecidableEq

/-- What reading a stream brings, one at a time; after the last event the stream ends. -/
inductive StreamEvent where
  | byte (value : UInt8)
  | failure (cause : ReadFailure)
deriving Repr, DecidableEq

/-- A part of a stream that one read can bring at most. -/
inductive Chunk where
  | bytes (values : List UInt8)
  | failure (cause : ReadFailure)
deriving Repr, DecidableEq

def Chunk.events : Chunk → List StreamEvent
  | .bytes values => values.map StreamEvent.byte
  | .failure cause => [.failure cause]

def eventsOf (chunks : List Chunk) : List StreamEvent :=
  chunks.flatMap Chunk.events

/-- What becomes of an interrupted read in a header. -/
inductive Interruption where
  /-- It is tried again. -/
  | retried
  /-- It is reported like any other failure. -/
  | reported
deriving Repr, DecidableEq

def bytesOf (text : String) : List UInt8 :=
  text.toUTF8.data.toList

/-- The text that some bytes spell, if they are UTF-8. -/
def textOf? (bytes : List UInt8) : Option String :=
  String.fromUTF8? ⟨bytes.toArray⟩

/-- A way to write to sinks of some kind. Each operation may fail with a description,
and yields the sink as it is afterwards. -/
structure Writer (σ : Type) where
  write : List UInt8 → σ → Except String Unit × σ
  flush : σ → Except String Unit × σ

def Writer.send {σ : Type} (writer : Writer σ) (text : String) (sink : σ) :
    Except WireError Unit × σ :=
  match writer.write (bytesOf text) sink with
  | (.error description, sink) => (.error (.stream description), sink)
  | (.ok (), sink) =>
      match writer.flush sink with
      | (.error description, sink) => (.error (.stream description), sink)
      | (.ok (), sink) => (.ok (), sink)

/-- A sink that keeps what it accepted, takes bytes while it has room, and may refuse
to be flushed. -/
structure BoundedSink where
  accepted : List UInt8
  room : Option Nat
  flushFails : Bool
deriving Repr, DecidableEq

namespace BoundedSink

def unlimited : BoundedSink := ⟨[], none, false⟩

def write (bytes : List UInt8) (sink : BoundedSink) : Except String Unit × BoundedSink :=
  match sink.room with
  | none => (.ok (), { sink with accepted := sink.accepted ++ bytes })
  | some room =>
      ( if bytes.length ≤ room then .ok () else .error "sink is full",
        { sink with
          accepted := sink.accepted ++ bytes.take room
          room := some (room - bytes.length) })

def flush (sink : BoundedSink) : Except String Unit × BoundedSink :=
  (if sink.flushFails then .error "flush refused" else .ok (), sink)

def writer : Writer BoundedSink := ⟨write, flush⟩

end BoundedSink

end ListInvocation.Wire
