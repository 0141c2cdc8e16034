/-!
Contract: patterns as a library compiles them.

The library is a parameter of everything that works with patterns: it settles which texts
are patterns, what is wrong with the others, and where a pattern is found.

Owns: compiled patterns and the class of libraries.

Does not own: any syntax of patterns.
-/

namespace ListInvocation

/-- A compiled pattern: its text, and the texts that it is found in. -/
structure Pattern where
  source : String
  isMatch : String → Bool

/-- A library that compiles patterns, or says why it cannot. A compiled pattern keeps the text
that it was compiled from. -/
class Pattern.Library where
  compile : String → Except String Pattern
  source_of_compile : ∀ {source : String} {pattern : Pattern},
    compile source = .ok pattern → pattern.source = source

end ListInvocation
