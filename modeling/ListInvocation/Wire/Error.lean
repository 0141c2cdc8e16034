/-!
Contract: what can go wrong between a byte stream and a decoded list.

Owns: the causes, their stable labels and their wording.

Does not own: how a session answers to them.
-/

namespace ListInvocation.Wire

/-- A failure while framing a message or decoding the list inside it. Offsets are
byte positions in the text that was being read. -/
inductive WireError where
  /-- The stream itself failed, with its own description. -/
  | stream (description : String)
  /-- A count or length is missing, not made of digits, too long or impossible. -/
  | invalidLength (offset : Nat)
  /-- The input ended before the announced content. -/
  | truncated (offset : Nat)
  /-- A structural character is missing. -/
  | missingDelimiter (expected : Char) (offset : Nat)
  /-- Something follows a complete list. -/
  | trailingData (offset : Nat)
  /-- A frame announced more bytes than allowed. -/
  | tooLarge (length limit : Nat)
  /-- The payload of a frame is not UTF-8. -/
  | invalidUtf8
deriving Repr, DecidableEq

namespace WireError

def label : WireError → String
  | .stream _ => "io"
  | .invalidLength _ => "invalid_length"
  | .truncated _ => "truncated"
  | .missingDelimiter _ _ => "missing_delimiter"
  | .trailingData _ => "trailing_data"
  | .tooLarge _ _ => "too_large"
  | .invalidUtf8 => "invalid_utf8"

def message : WireError → String
  | .stream description => "wire io error: " ++ description
  | .invalidLength offset => s!"invalid length prefix at byte {offset}"
  | .truncated offset => s!"truncated input at byte {offset}"
  | .missingDelimiter expected offset => s!"expected '{expected}' at byte {offset}"
  | .trailingData offset => s!"unexpected trailing data at byte {offset}"
  | .tooLarge length limit => s!"frame of {length} bytes exceeds limit of {limit}"
  | .invalidUtf8 => "frame payload must be utf-8"

end WireError

end ListInvocation.Wire
