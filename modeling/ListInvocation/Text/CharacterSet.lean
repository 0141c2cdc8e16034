import ListInvocation.Text.Hexadecimal

/-!
Contract: sets of characters given by the code points where membership changes.

Owns: the type `CharacterSet`, membership in it, its written forms, and the algebra of sets.

Does not own: any particular set.
-/

namespace ListInvocation.Text

/-- A set of characters. Membership changes at each border, and the code points below
the first border are outside. -/
structure CharacterSet where
  borders : Array Nat
deriving Repr, DecidableEq, Inhabited

namespace CharacterSet

/-- The number of borders at or below a code point, when it is known to lie between
`lower` and `upper`. -/
def passedBetween (borders : Array Nat) (codePoint lower upper : Nat) : Nat :=
  if lower < upper then
    let middle := (lower + upper) / 2
    if borders.getD middle 0 ≤ codePoint then
      passedBetween borders codePoint (middle + 1) upper
    else
      passedBetween borders codePoint lower middle
  else
    lower
termination_by upper - lower

/-- Whether a code point lies in the set: an odd number of borders is passed. -/
def containsCode (set : CharacterSet) (codePoint : Nat) : Bool :=
  passedBetween set.borders codePoint 0 set.borders.size % 2 == 1

def contains (set : CharacterSet) (character : Char) : Bool :=
  set.containsCode character.toNat

def empty : CharacterSet := ⟨#[]⟩

def full : CharacterSet := ⟨#[0]⟩

def ofRange (first last : Nat) : CharacterSet := ⟨#[first, last + 1]⟩

def ofChar (character : Char) : CharacterSet := ofRange character.toNat character.toNat

/-- Borders of a set, with one more at a code point where membership changes. -/
def addBorder (was now : Bool) (border : Nat) (borders : List Nat) : List Nat :=
  if was == now then borders else border :: borders

/-- The borders of a set made of two, where `inside` says which characters it has. The
flags tell whether the code points before the given borders lie in the one and the other. -/
def combineBorders (inside : Bool → Bool → Bool) (inLeft inRight : Bool) :
    List Nat → List Nat → List Nat
  | [], [] => []
  | left :: lefts, [] =>
      addBorder (inside inLeft inRight) (inside (!inLeft) inRight) left
        (combineBorders inside (!inLeft) inRight lefts [])
  | [], right :: rights =>
      addBorder (inside inLeft inRight) (inside inLeft (!inRight)) right
        (combineBorders inside inLeft (!inRight) [] rights)
  | left :: lefts, right :: rights =>
      if left < right then
        addBorder (inside inLeft inRight) (inside (!inLeft) inRight) left
          (combineBorders inside (!inLeft) inRight lefts (right :: rights))
      else if right < left then
        addBorder (inside inLeft inRight) (inside inLeft (!inRight)) right
          (combineBorders inside inLeft (!inRight) (left :: lefts) rights)
      else
        addBorder (inside inLeft inRight) (inside (!inLeft) (!inRight)) left
          (combineBorders inside (!inLeft) (!inRight) lefts rights)
termination_by lefts rights => lefts.length + rights.length

/-- The characters that `inside` chooses by their membership in two sets. It must leave
out those that lie in neither. -/
def combine (inside : Bool → Bool → Bool) (left right : CharacterSet) : CharacterSet :=
  ⟨(combineBorders inside false false left.borders.toList right.borders.toList).toArray⟩

def union (left right : CharacterSet) : CharacterSet :=
  combine (fun inLeft inRight => inLeft || inRight) left right

def intersection (left right : CharacterSet) : CharacterSet :=
  combine (fun inLeft inRight => inLeft && inRight) left right

def difference (left right : CharacterSet) : CharacterSet :=
  combine (fun inLeft inRight => inLeft && !inRight) left right

/-- The characters of exactly one of two sets. -/
def symmetricDifference (left right : CharacterSet) : CharacterSet :=
  combine (fun inLeft inRight => inLeft != inRight) left right

def complement (set : CharacterSet) : CharacterSet :=
  full.difference set

def unionAll (sets : List CharacterSet) : CharacterSet :=
  sets.foldl union empty

def ofAscending (codePoints : List Nat) : CharacterSet :=
  ⟨(codePoints.flatMap fun codePoint => [codePoint, codePoint + 1]).toArray⟩

def ofChars (characters : List Char) : CharacterSet :=
  unionAll (characters.map ofChar)

def lastCodePoint : Nat := 0x10FFFF

def rangesBetween : List Nat → List (Nat × Nat)
  | first :: next :: borders => (first, next - 1) :: rangesBetween borders
  | [first] => [(first, lastCodePoint)]
  | [] => []

/-- The ranges of a set in ascending order, each with its first and last code point. -/
def ranges (set : CharacterSet) : List (Nat × Nat) :=
  rangesBetween set.borders.toList

def isAscii (set : CharacterSet) : Bool :=
  set.ranges.all fun range => range.2 < 0x80

/-- Reads run lengths: how many code points lie outside, inside, outside and so on. The
length that is being read, if one is, counts from a position. -/
def bordersOfRuns (position : Nat) (length? : Option Nat) : List Char → List Nat
  | [] => (length?.map fun length => position + length).toList
  | character :: rest =>
      match hexValue? character, length? with
      | some digit, _ => bordersOfRuns position (some (length?.getD 0 * 16 + digit)) rest
      | none, some length => (position + length) :: bordersOfRuns (position + length) none rest
      | none, none => bordersOfRuns position none rest

/-- The set with the given run lengths, in hexadecimal digits with blanks between them. -/
def ofRuns (runs : String) : CharacterSet :=
  ⟨(bordersOfRuns 0 none runs.toList).toArray⟩

end CharacterSet

end ListInvocation.Text
