import ListInvocation.Pattern.Expression

/-!
Contract: how much memory the automaton of an expression takes.

The automaton reads bytes. A repetition with counts takes a copy of its body for each, so
that short patterns can have large automata. A class beyond ASCII takes a state for each
distinct start of the byte sequences that encode its characters.

Owns: the byte sequences of a class, and the size of an automaton.

Does not own: the limit on the size.
-/

namespace ListInvocation.Pattern

open Text (CharacterSet)

def stateBytes : Nat := 32

def transitionBytes : Nat := 8

def alternativeBytes : Nat := 4

/-- The ranges of code points whose characters are encoded in equally many bytes. -/
def encodingRanges : List (Nat × Nat) :=
  [(0, 0x7F), (0x80, 0x7FF), (0x800, 0xD7FF), (0xE000, 0xFFFF), (0x10000, 0x10FFFF)]

def encodedBytes (codePoint : Nat) : List Nat :=
  ((Char.ofNat codePoint).toString.toUTF8.toList).map UInt8.toNat

/-- The smallest of all bytes that go on with a character. -/
def lowestNext : Nat := 0x80

/-- The largest of all bytes that go on with a character. -/
def highestNext : Nat := 0xBF

abbrev ByteSequence := List (Nat × Nat)

/-- The sequences of byte ranges for what lies between two encodings of one length. -/
def sequencesBetween : List Nat → List Nat → List ByteSequence
  | first :: firstRest, last :: lastRest =>
      if firstRest.isEmpty then [[(first, last)]]
      else if first = last then
        (sequencesBetween firstRest lastRest).map ((first, first) :: ·)
      else
        let lowest := firstRest.map fun _ => lowestNext
        let highest := firstRest.map fun _ => highestNext
        let fromStart := firstRest == lowest
        let toEnd := lastRest == highest
        let middleFirst := if fromStart then first else first + 1
        let middleLast := if toEnd then last else last - 1
        let head :=
          if fromStart then []
          else (sequencesBetween firstRest highest).map ((first, first) :: ·)
        let middle :=
          if middleLast < middleFirst then []
          else [(middleFirst, middleLast) :: firstRest.map fun _ => (lowestNext, highestNext)]
        let tail :=
          if toEnd then []
          else (sequencesBetween lowest lastRest).map ((last, last) :: ·)
        head ++ middle ++ tail
  | _, _ => []
termination_by firsts => firsts.length
decreasing_by all_goals simp

/-- The byte sequences of a class, in ascending order. -/
def byteSequences (characters : CharacterSet) : List ByteSequence :=
  encodingRanges.flatMap fun encoding =>
    (characters.ranges.filter fun range =>
      encoding.1 ≤ range.2 && range.1 ≤ encoding.2).flatMap fun range =>
        sequencesBetween (encodedBytes (max encoding.1 range.1))
          (encodedBytes (min encoding.2 range.2))

def commonStart : ByteSequence → ByteSequence → Nat
  | left :: lefts, right :: rights => if left = right then commonStart lefts rights + 1 else 0
  | _, _ => 0

/-- The number of distinct starts of sequences in ascending order, after one of them. -/
def distinctStarts (previous : ByteSequence) : List ByteSequence → Nat
  | [] => 0
  | next :: others => next.length - commonStart previous next + distinctStarts next others

def classSize (characters : CharacterSet) : Nat :=
  match characters.ranges with
  | [(first, last)] =>
      if first = last then (encodedBytes first).length * stateBytes
      else rangesSize
  | _ => rangesSize
where
  /-- The size for a class that is not one character. -/
  rangesSize : Nat :=
    if characters.isAscii then 2 * stateBytes + characters.ranges.length * transitionBytes
    else
      let sequences := byteSequences characters
      (distinctStarts [] sequences + 2) * stateBytes + sequences.length * alternativeBytes

namespace Expression

/-- Whether an expression can match nothing but the empty text. -/
def isWidthless : Expression → Bool
  | nothing | asserted _ => true
  | one _ => false
  | captured body => body.isWidthless
  | both first second | either first second => first.isWidthless && second.isWidthless
  | repeated body _ most? => body.isWidthless || most? == some 0

def repetitionSize (size least : Nat) (most? : Option Nat) : Nat :=
  match most? with
  | none => max least 1 * size + stateBytes + 2 * alternativeBytes
  | some most =>
      if most ≤ least then least * size
      else
        least * size + stateBytes
          + (most - least) * (size + stateBytes + 2 * alternativeBytes)

/-- The size of the automaton of an expression. A body without width is not repeated. -/
def size : Expression → Nat
  | nothing => 0
  | one characters => classSize characters
  | asserted _ => stateBytes
  | captured body => body.size + 2 * stateBytes
  | both first second => first.size + second.size
  | either first second =>
      first.size + second.size + 2 * stateBytes + 2 * alternativeBytes
  | repeated body least most? =>
      if body.isWidthless then body.size else repetitionSize body.size least most?

end Expression

end ListInvocation.Pattern
