import ListInvocation.Wire.List
import ListInvocation.Wire.Stream

/-!
Contract: messages in frames on a byte stream.

A frame is the length of its payload in bytes, a colon, and the payload. A length is
read from one to nine digits and checked against a limit before any of the payload is
read.

Owns: the written frame and greeting, the reader that is fed one event at a time, and
the reading of frames from the events of a stream.

Does not own: what a payload means.
-/

namespace ListInvocation.Wire

open ListInvocation.Decimal

def frame (payload : String) : String :=
  String.ofList (encodeLength payload.utf8ByteSize) ++ payload

def greetingStart : String := "Slim -- V"

def greeting (version : String) : String :=
  greetingStart ++ version ++ "\n"

inductive FrameReader where
  /-- A header, of which some digits have been read. -/
  | header (value digits : Nat)
  /-- The missing bytes of a payload; those collected are in reverse. -/
  | payload (length missing : Nat) (collected : List UInt8)
deriving Repr, DecidableEq

/-- A payload, or why there is none. -/
abbrev FrameResult := Except WireError String

namespace FrameReader

def start : FrameReader := .header 0 0

/-- The payload of some bytes in reverse. -/
def payloadOf (collected : List UInt8) : FrameResult :=
  match textOf? collected.reverse with
  | some text => .ok text
  | none => .error .invalidUtf8

def announce (limit length : Nat) : FrameReader × Option FrameResult :=
  if limit < length then (start, some (.error (.tooLarge length limit)))
  else if length = 0 then (start, some (payloadOf []))
  else (.payload length length [], none)

def digitOf? (byte : UInt8) : Option Nat :=
  if 48 ≤ byte.toNat ∧ byte.toNat ≤ 57 then some (byte.toNat - 48) else none

def takeByte (limit : Nat) : FrameReader → UInt8 → FrameReader × Option FrameResult
  | .header value digits, byte =>
      if byte = 58 ∧ 0 < digits then announce limit value
      else
        match digitOf? byte with
        | some digit =>
            if digits < maxLengthDigits then
              (.header (value * 10 + digit) (digits + 1), none)
            else
              (start, some (.error (.invalidLength digits)))
        | none => (start, some (.error (.invalidLength digits)))
  | .payload length missing collected, byte =>
      if missing ≤ 1 then (start, some (payloadOf (byte :: collected)))
      else (.payload length (missing - 1) (byte :: collected), none)

/-- Meets a failed read. In a payload interruptions are always tried again, and an end
of file is reported as a truncated frame. -/
def meetFailure (interruption : Interruption) :
    FrameReader → ReadFailure → FrameReader × Option FrameResult
  | .header value digits, failure =>
      if failure.kind = .interrupted ∧ interruption = .retried then
        (.header value digits, none)
      else
        (start, some (.error (.stream failure.description)))
  | .payload length missing collected, failure =>
      match failure.kind with
      | .interrupted => (.payload length missing collected, none)
      | .unexpectedEnd => (start, some (.error (.truncated length)))
      | .other => (start, some (.error (.stream failure.description)))

/-- Takes one event; a payload or a failure leaves the reader before the next frame. -/
def step (interruption : Interruption) (limit : Nat) (reader : FrameReader) :
    StreamEvent → FrameReader × Option FrameResult
  | .byte byte => reader.takeByte limit byte
  | .failure cause => reader.meetFailure interruption cause

/-- What the end of the stream means: nothing between two frames, else a truncation. -/
def atEnd : FrameReader → Option WireError
  | .header _ 0 => none
  | .header _ digits => some (.truncated digits)
  | .payload length _ _ => some (.truncated length)

/-- Reads one frame from the events of a stream, and returns the events behind it.
There is none at the end of the stream. -/
def read (interruption : Interruption) (limit : Nat) (reader : FrameReader) :
    List StreamEvent → Except WireError (Option String) × List StreamEvent
  | [] =>
      match reader.atEnd with
      | none => (.ok none, [])
      | some error => (.error error, [])
  | event :: events =>
      match reader.step interruption limit event with
      | (reader, none) => reader.read interruption limit events
      | (_, some (.ok text)) => (.ok (some text), events)
      | (_, some (.error error)) => (.error error, events)

def readAll (interruption : Interruption) (limit : Nat) (reader : FrameReader) :
    List StreamEvent → List (Except WireError (Option String))
  | [] =>
      match reader.atEnd with
      | none => [.ok none]
      | some error => [.error error]
  | event :: events =>
      match reader.step interruption limit event with
      | (reader, none) => reader.readAll interruption limit events
      | (reader, some (.ok text)) =>
          .ok (some text) :: reader.readAll interruption limit events
      | (_, some (.error error)) => [.error error]

end FrameReader

def readFrame (interruption : Interruption) (limit : Nat) (events : List StreamEvent) :
    Except WireError (Option String) × List StreamEvent :=
  FrameReader.start.read interruption limit events

/-- Reads a number of frames, also behind failures. -/
def readFrames (interruption : Interruption) (limit : Nat) :
    (count : Nat) → List StreamEvent → List (Except WireError (Option String))
  | 0, _ => []
  | count + 1, events =>
      let (result, events) := readFrame interruption limit events
      result :: readFrames interruption limit count events

end ListInvocation.Wire
