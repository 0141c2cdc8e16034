import ListInvocation.Config.Basic
import ListInvocation.Decimal.Natural

/-!
Contract: the audit trail, one line of JSON for each event.

Every line has the same fields in the same order; a field that an event does not use is
null.

Owns: the events, their fields, and the line of a record.

Does not own: when events happen, or where the lines go.
-/

namespace ListInvocation

structure AuditContext where
  sessionId : Nat
  transport : Transport
  peer? : Option String
deriving Repr, DecidableEq

structure MessageStats where
  messageIndex : Nat
  instructions : Nat
  failures : Nat
  requestBytes : Nat
  responseBytes : Nat
deriving Repr, DecidableEq

inductive AuditEvent where
  | sessionStarted
  | messageProcessed (stats : MessageStats)
  | messageRejected (messageIndex : Nat) (errorKind error : String)
      (requestBytes? : Option Nat)
  | sessionEnded (messages : Nat) (reason : String) (error? : Option String)
  | acceptFailed (errorKind error : String)
deriving Repr, DecidableEq

structure AuditRecord where
  context : AuditContext
  event : AuditEvent
deriving Repr, DecidableEq

namespace AuditEvent

def name : AuditEvent → String
  | .sessionStarted => "session_started"
  | .messageProcessed _ => "message_processed"
  | .messageRejected _ _ _ _ => "message_rejected"
  | .sessionEnded _ _ _ => "session_ended"
  | .acceptFailed _ _ => "accept_failed"

def messageIndex? : AuditEvent → Option Nat
  | .messageProcessed stats => some stats.messageIndex
  | .messageRejected messageIndex _ _ _ => some messageIndex
  | .sessionEnded messages _ _ => some messages
  | .sessionStarted | .acceptFailed _ _ => none

def stats? : AuditEvent → Option MessageStats
  | .messageProcessed stats => some stats
  | _ => none

def requestBytes? : AuditEvent → Option Nat
  | .messageProcessed stats => some stats.requestBytes
  | .messageRejected _ _ _ requestBytes? => requestBytes?
  | _ => none

def errorKind? : AuditEvent → Option String
  | .messageRejected _ errorKind _ _ | .acceptFailed errorKind _ => some errorKind
  | _ => none

def error? : AuditEvent → Option String
  | .messageRejected _ _ error _ | .acceptFailed _ error => some error
  | .sessionEnded _ _ error? => error?
  | _ => none

def reason? : AuditEvent → Option String
  | .sessionEnded _ reason _ => some reason
  | _ => none

end AuditEvent

namespace AuditRecord

def escapedCode (code : Nat) : List Char :=
  let digits := Nat.toDigits 16 code
  '\\' :: 'u' :: List.replicate (4 - digits.length) '0' ++ digits

/-- A character inside a quoted text: quotes, backslashes and control characters are
escaped, everything else stands for itself. -/
def escapedChar (character : Char) : List Char :=
  match character.toNat with
  | 0x22 => ['\\', Char.ofNat 0x22]
  | 0x5C => ['\\', '\\']
  | 0x08 => ['\\', 'b']
  | 0x09 => ['\\', 't']
  | 0x0A => ['\\', 'n']
  | 0x0C => ['\\', 'f']
  | 0x0D => ['\\', 'r']
  | code => if code < 0x20 then escapedCode code else [character]

def quoted (text : String) : String :=
  "\"" ++ String.ofList (text.toList.flatMap escapedChar) ++ "\""

def quotedOrNull (text? : Option String) : String :=
  (text?.map quoted).getD "null"

def numberOrNull (number? : Option Nat) : String :=
  (number?.map fun number => String.ofList (Decimal.digits number)).getD "null"

def fields (record : AuditRecord) (timestamp : Nat) : List (String × String) :=
  let event := record.event
  [ ("event", quoted event.name),
    ("timestamp_ms", numberOrNull (some timestamp)),
    ("session_id", numberOrNull (some record.context.sessionId)),
    ("transport", quoted record.context.transport.name),
    ("peer", quotedOrNull record.context.peer?),
    ("message_index", numberOrNull event.messageIndex?),
    ("instructions", numberOrNull (event.stats?.map MessageStats.instructions)),
    ("failures", numberOrNull (event.stats?.map MessageStats.failures)),
    ("request_bytes", numberOrNull event.requestBytes?),
    ("response_bytes", numberOrNull (event.stats?.map MessageStats.responseBytes)),
    ("error_kind", quotedOrNull event.errorKind?),
    ("error", quotedOrNull event.error?),
    ("reason", quotedOrNull event.reason?) ]

def line (record : AuditRecord) (timestamp : Nat) : String :=
  let written := (record.fields timestamp).map fun field => quoted field.1 ++ ":" ++ field.2
  "\x7b" ++ String.intercalate "," written ++ "\x7d"

end AuditRecord

end ListInvocation
