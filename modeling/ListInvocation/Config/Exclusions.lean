import ListInvocation.Config.Basic
import ListInvocation.Pattern.Library

/-!
Contract: names that a configuration leaves out.

Owns: compiled exclusions and the pattern that a name matches.

Does not own: patterns themselves.
-/

namespace ListInvocation

structure Exclusions where
  patterns : List Pattern

namespace Exclusions

variable [Pattern.Library]

def compileOne (source : String) : Except ConfigError Pattern :=
  match Pattern.Library.compile source with
  | .ok pattern => .ok pattern
  | .error description =>
      .error (.invalid ("exclusions.patterns: invalid pattern " ++ source ++ ": " ++ description))

/-- Compiles all patterns; the first failure counts. -/
def compile : List String → Except ConfigError Exclusions
  | [] => .ok ⟨[]⟩
  | source :: sources => do
      let pattern ← compileOne source
      let others ← compile sources
      return ⟨pattern :: others.patterns⟩

/-- The text of the first pattern that is found in a name. -/
def matching? (exclusions : Exclusions) (name : String) : Option String :=
  (exclusions.patterns.find? fun pattern => pattern.isMatch name).map Pattern.source

def excludes (exclusions : Exclusions) (name : String) : Bool :=
  exclusions.patterns.any fun pattern => pattern.isMatch name

end Exclusions

end ListInvocation
