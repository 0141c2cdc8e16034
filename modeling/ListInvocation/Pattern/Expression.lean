import ListInvocation.Text.CharacterSet
import ListInvocation.Unicode.Word

/-!
Contract: what a pattern means, and whether it is found in a text.

A text of n characters has n + 1 gaps: before, between and after its characters. An
expression leads from gaps to gaps: it leads from a gap to those at which a match that
starts there can end. It is found in a text when it leads from some gap to some gap.

Owns: expressions, the places that they can ask for, and the search.

Does not own: how expressions are written.
-/

namespace ListInvocation.Pattern

open Text (CharacterSet)

/-- The characters on both sides of a gap. -/
structure Gap where
  before? : Option Char
  after? : Option Char
deriving Repr, DecidableEq

namespace Gap

def after (before? : Option Char) : List Char → List Gap
  | [] => [⟨before?, none⟩]
  | character :: rest => ⟨before?, some character⟩ :: after (some character) rest

def ofText (text : List Char) : List Gap :=
  after none text

end Gap

inductive Assertion where
  | textStart
  | textEnd
  | lineStart
  | lineEnd
  /-- The start of a line that may end in a carriage return and a line feed. -/
  | returnLineStart
  | returnLineEnd
  /-- The words of the set have a border here. -/
  | wordBoundary (characters : CharacterSet)
  | notWordBoundary (characters : CharacterSet)
  | wordStart (characters : CharacterSet)
  | wordEnd (characters : CharacterSet)
  /-- No word of the set goes on from before. -/
  | wordStartHalf (characters : CharacterSet)
  /-- No word of the set goes on after. -/
  | wordEndHalf (characters : CharacterSet)
deriving Repr, DecidableEq

namespace Assertion

/-- Whether a character is there and lies in a set. -/
def isIn (characters : CharacterSet) (character? : Option Char) : Bool :=
  character?.any characters.contains

def holds (assertion : Assertion) (gap : Gap) : Bool :=
  match assertion with
  | textStart => gap.before?.isNone
  | textEnd => gap.after?.isNone
  | lineStart => gap.before?.isNone || gap.before? == some '\n'
  | lineEnd => gap.after?.isNone || gap.after? == some '\n'
  | returnLineStart =>
      gap.before?.isNone || gap.before? == some '\n'
        || (gap.before? == some '\r' && gap.after? != some '\n')
  | returnLineEnd =>
      gap.after?.isNone || gap.after? == some '\r'
        || (gap.after? == some '\n' && gap.before? != some '\r')
  | wordBoundary characters => isIn characters gap.before? != isIn characters gap.after?
  | notWordBoundary characters => isIn characters gap.before? == isIn characters gap.after?
  | wordStart characters => !isIn characters gap.before? && isIn characters gap.after?
  | wordEnd characters => isIn characters gap.before? && !isIn characters gap.after?
  | wordStartHalf characters => !isIn characters gap.before?
  | wordEndHalf characters => !isIn characters gap.after?

end Assertion

inductive Expression where
  | nothing
  | one (characters : CharacterSet)
  | asserted (assertion : Assertion)
  | captured (body : Expression)
  | both (first second : Expression)
  | either (first second : Expression)
  | repeated (body : Expression) (least : Nat) (most? : Option Nat)
deriving Repr, DecidableEq

/-- Which gaps of a text are marked, from its first gap on. -/
abbrev Marks := List Bool

namespace Marks

def union (left right : Marks) : Marks :=
  List.zipWith (fun inLeft inRight => inLeft || inRight) left right

/-- Takes a step a number of times. A step that changes nothing ends the walk, for then
no further one changes anything. -/
def exactly (step : Marks → Marks) : Nat → Marks → Marks
  | 0, marks => marks
  | count + 1, marks =>
      let next := step marks
      if next == marks then marks else exactly step count next

/-- The gaps that are reached in at most a number of steps. -/
def upTo (step : Marks → Marks) : Nat → Marks → Marks
  | 0, marks => marks
  | count + 1, marks =>
      let next := marks.union (step marks)
      if next == marks then marks else upTo step count next

end Marks

namespace Expression

/-- The gaps that an expression leads to from the marked ones. Without a bound on the
repetitions, as many as there are gaps reach all that can be reached. -/
def advance (gaps : List Gap) : Expression → Marks → Marks
  | nothing, marks => marks
  | one characters, marks =>
      false :: (List.zipWith
        (fun marked (gap : Gap) => marked && Assertion.isIn characters gap.after?)
        marks gaps).dropLast
  | asserted assertion, marks =>
      List.zipWith (fun marked gap => marked && assertion.holds gap) marks gaps
  | captured body, marks => advance gaps body marks
  | both first second, marks => advance gaps second (advance gaps first marks)
  | either first second, marks =>
      Marks.union (advance gaps first marks) (advance gaps second marks)
  | repeated body least most?, marks =>
      let further := match most? with
        | some most => most - least
        | none => gaps.length
      Marks.upTo (advance gaps body) further (Marks.exactly (advance gaps body) least marks)

def foundIn (expression : Expression) (text : List Char) : Bool :=
  let gaps := Gap.ofText text
  (advance gaps expression (gaps.map fun _ => true)).any id

def ofSequence : List Expression → Expression
  | [] => nothing
  | [expression] => expression
  | expression :: rest => both expression (ofSequence rest)

def ofChoice : List Expression → Expression
  | [] => nothing
  | [expression] => expression
  | expression :: rest => either expression (ofChoice rest)

end Expression

end ListInvocation.Pattern
