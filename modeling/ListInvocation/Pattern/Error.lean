/-!
Contract: why a text is no usable pattern.

Owns: the faults that a pattern can have and the wording of errors.

Does not own: where a fault is found.
-/

namespace ListInvocation

inductive PatternFault where
  | backreference
  | classEscapeInvalid
  | classRangeInvalid
  | classRangeNotLiteral
  | classUnclosed
  | countInvalid
  | countMissing
  | countTooLarge
  | countUnclosed
  | escapeUnfinished
  | escapeUnrecognized
  | flagDuplicate
  | flagMissing
  | flagUnrecognized
  | groupNameDuplicate
  | groupNameEmpty
  | groupNameInvalid
  | groupNameUnclosed
  | groupUnclosed
  | groupUnopened
  | hexEmpty
  | hexInvalid
  | hexInvalidDigit
  | invalidText
  | lookAround
  | negationDangling
  | negationRepeated
  | nestedTooDeeply (limit : Nat)
  | propertyInvalid
  | propertyNotFound
  | repetitionMissing
  | unicodeNotAllowed
  | wordAssertionUnclosed
  | wordAssertionUnrecognized
deriving Repr, DecidableEq

def PatternFault.message : PatternFault → String
  | backreference => "backreferences are not supported"
  | classEscapeInvalid => "invalid escape sequence found in character class"
  | classRangeInvalid => "invalid character class range, the start must be <= the end"
  | classRangeNotLiteral => "invalid range boundary, must be a literal"
  | classUnclosed => "unclosed character class"
  | countInvalid => "invalid repetition count range, the start must be <= the end"
  | countMissing => "repetition quantifier expects a valid decimal"
  | countTooLarge => "decimal literal invalid"
  | countUnclosed => "unclosed counted repetition"
  | escapeUnfinished => "incomplete escape sequence, reached end of pattern prematurely"
  | escapeUnrecognized => "unrecognized escape sequence"
  | flagDuplicate => "duplicate flag"
  | flagMissing => "expected flag but got end of regex"
  | flagUnrecognized => "unrecognized flag"
  | groupNameDuplicate => "duplicate capture group name"
  | groupNameEmpty => "empty capture group name"
  | groupNameInvalid => "invalid capture group character"
  | groupNameUnclosed => "unclosed capture group name"
  | groupUnclosed => "unclosed group"
  | groupUnopened => "unopened group"
  | hexEmpty => "hexadecimal literal empty"
  | hexInvalid => "hexadecimal literal is not a Unicode scalar value"
  | hexInvalidDigit => "invalid hexadecimal digit"
  | invalidText => "pattern can match invalid UTF-8"
  | lookAround => "look-around, including look-ahead and look-behind, is not supported"
  | negationDangling => "dangling flag negation operator"
  | negationRepeated => "flag negation operator repeated"
  | nestedTooDeeply limit =>
      s!"exceed the maximum number of nested parentheses/brackets ({limit})"
  | propertyInvalid => "invalid Unicode character class"
  | propertyNotFound => "Unicode property not found"
  | repetitionMissing => "repetition operator missing expression"
  | unicodeNotAllowed => "Unicode not allowed here"
  | wordAssertionUnclosed =>
      "special word boundary assertion is either unclosed or contains an invalid character"
  | wordAssertionUnrecognized =>
      "unrecognized special word boundary assertion, "
        ++ "valid choices are: start, end, start-half or end-half"

inductive PatternError where
  | malformed (source : String) (fault : PatternFault)
  /-- Its automaton would take more bytes than the limit. -/
  | tooLarge (limit : Nat)
deriving Repr, DecidableEq

def PatternError.message : PatternError → String
  | malformed source fault => "regex parse error:\n    " ++ source ++ "\nerror: " ++ fault.message
  | tooLarge limit => s!"Compiled regex exceeds size limit of {limit} bytes."

end ListInvocation
