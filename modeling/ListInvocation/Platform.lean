import ListInvocation.Pattern.Engine
import ListInvocation.Text.Alphanumeric

/-!
Contract: the alphabet and the pattern library that the program runs with.

Owns: the two instances.

Does not own: what is said of every alphabet and every library.
-/

namespace ListInvocation

instance unicodeAlphabet : Text.Alphabet where
  isAlphanumeric := Text.alphanumeric.contains
  isAlphanumeric_ascii := Text.alphanumeric_ascii

instance patternEngine : Pattern.Library where
  compile source := (Pattern.compile source).mapError PatternError.message
  source_of_compile := by
    intro source pattern compiled
    cases result : Pattern.compile source with
    | error error =>
        rw [result] at compiled
        contradiction
    | ok engine =>
        rw [result] at compiled
        cases compiled
        exact Pattern.source_of_compile result

end ListInvocation
