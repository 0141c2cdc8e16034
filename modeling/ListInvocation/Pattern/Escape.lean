import ListInvocation.Decimal.Natural
import ListInvocation.Pattern.Error
import ListInvocation.Pattern.Term
import ListInvocation.Text.Blank

/-!
Contract: the parts of a pattern that start with a backslash, and the blanks between parts.

Blanks and comments count for nothing in a verbose pattern, also inside an escape. Every
reader returns the rest of the pattern after what it has read.

Owns: blanks, comments, hexadecimal characters, property queries, places and letter classes.

Does not own: which escapes may stand in a class.
-/

namespace ListInvocation.Pattern

/-- A reading of a part, with the rest after it. -/
abbrev Reading (α : Type) := Except PatternFault (α × List Char)

/-- Drops blanks and comments; `inComment` tells whether a comment has begun. -/
def dropBlanks (inComment : Bool) : List Char → List Char
  | [] => []
  | character :: rest =>
      if inComment then dropBlanks (character != '\n') rest
      else if Text.isBlank character then dropBlanks false rest
      else if character == '#' then dropBlanks true rest
      else character :: rest

/-- Drops what counts for nothing before the next part. -/
def skipBlanks (verbose : Bool) (characters : List Char) : List Char :=
  if verbose then dropBlanks false characters else characters

theorem dropBlanks_length_le (inComment : Bool) (characters : List Char) :
    (dropBlanks inComment characters).length ≤ characters.length := by
  induction characters generalizing inComment with
  | nil => simp [dropBlanks]
  | cons character rest inductionHypothesis =>
      simp only [dropBlanks]
      split
      · exact Nat.le_succ_of_le (inductionHypothesis _)
      · split
        · exact Nat.le_succ_of_le (inductionHypothesis _)
        · split
          · exact Nat.le_succ_of_le (inductionHypothesis _)
          · exact Nat.le_refl _

theorem skipBlanks_length_le (verbose : Bool) (characters : List Char) :
    (skipBlanks verbose characters).length ≤ characters.length := by
  unfold skipBlanks
  split
  · exact dropBlanks_length_le false characters
  · exact Nat.le_refl _

/-- Reads characters as long as they pass a test, with blanks between them. -/
def takeWhileSkipping (verbose : Bool) (test : Char → Bool) :
    List Char → List Char × List Char
  | [] => ([], [])
  | character :: rest =>
      if test character then
        let (taken, after) := takeWhileSkipping verbose test (skipBlanks verbose rest)
        (character :: taken, after)
      else ([], character :: rest)
termination_by characters => characters.length
decreasing_by
  have := skipBlanks_length_le verbose rest
  simp only [List.length_cons]
  omega

def readBraced (verbose : Bool) (characters : List Char) : Reading (List Char) :=
  match takeWhileSkipping verbose (· != '}') (skipBlanks verbose characters) with
  | (content, _ :: rest) => .ok (content, rest)
  | (_, []) => .error .escapeUnfinished

def characterOf? (codePoint : Nat) : Option Char :=
  if codePoint.isValidChar then some (Char.ofNat codePoint) else none

def readHexDigits (verbose : Bool) (value : Nat) : Nat → List Char → Reading Nat
  | 0, characters => .ok (value, characters)
  | _ + 1, [] => .error .escapeUnfinished
  | count + 1, character :: rest =>
      match Text.hexValue? character with
      | none => .error .hexInvalidDigit
      | some digit =>
          readHexDigits verbose (value * 16 + digit) count (skipBlanks verbose rest)

def hexOfBraced (digits : List Char) : Except PatternFault Nat :=
  if digits.isEmpty then .error .hexEmpty
  else
    match Text.ofHexDigits? digits with
    | some value => .ok value
    | none => .error .hexInvalidDigit

def literalOf (codePoint : Nat) (byte : Bool) : Except PatternFault Term :=
  match characterOf? codePoint with
  | some character => .ok (.literal character byte)
  | none => .error .hexInvalid

/-- Reads a character that is written in hexadecimal, after its letter. The letter says how
many digits there are when they do not stand in braces. -/
def readHex (verbose : Bool) (count : Nat) (characters : List Char) :
    Except PatternFault (Term × List Char) := do
  match skipBlanks verbose characters with
  | [] => throw .escapeUnfinished
  | '{' :: rest =>
      let (digits, rest) ← readBraced verbose rest
      let codePoint ← hexOfBraced digits
      return (← literalOf codePoint false, skipBlanks verbose rest)
  | characters =>
      let (codePoint, rest) ← readHexDigits verbose 0 count characters
      return (← literalOf codePoint (count == 2), rest)

def splitAtFirst? (mark : List Char) : List Char → Option (List Char × List Char)
  | [] => none
  | character :: rest =>
      if mark.isPrefixOf (character :: rest) then
        some ([], (character :: rest).drop mark.length)
      else
        (splitAtFirst? mark rest).map fun (before, after) => (character :: before, after)

/-- The property that a query between braces asks for. An inequality sign negates it. -/
def propertyOf (content : List Char) (negated : Bool) : Term :=
  let valued (parts : List Char × List Char) : Unicode.PropertyQuery :=
    .valued (String.ofList parts.1) (String.ofList parts.2)
  match splitAtFirst? ['!', '='] content with
  | some parts => .property (valued parts) (!negated)
  | none =>
      match (splitAtFirst? [':'] content).or (splitAtFirst? ['='] content) with
      | some parts => .property (valued parts) negated
      | none => .property (.named (String.ofList content)) negated

def readProperty (verbose negated : Bool) (characters : List Char) :
    Except PatternFault (Term × List Char) := do
  match skipBlanks verbose characters with
  | [] => throw .escapeUnfinished
  | '{' :: rest =>
      let (content, rest) ← readBraced verbose rest
      return (propertyOf content negated, rest)
  | '\\' :: _ => throw .propertyInvalid
  | character :: rest =>
      return (.property (.named character.toString) negated, skipBlanks verbose rest)

def wordPlaces : List (String × WordPlace) :=
  [("start", .start), ("end", .finish), ("start-half", .startHalf), ("end-half", .finishHalf)]

def isPlaceCharacter (character : Char) : Bool :=
  ('a' ≤ character && character ≤ 'z') || ('A' ≤ character && character ≤ 'Z')
    || character == '-'

/-- Reads the name of a place after the letter for a word boundary. Braces that hold
something else belong to a repetition. -/
def readWordPlace (verbose : Bool) (characters : List Char) : Reading WordPlace :=
  match characters with
  | '{' :: rest =>
      match skipBlanks verbose rest with
      | [] => .error .wordAssertionUnclosed
      | character :: inner =>
          if isPlaceCharacter character then
            match takeWhileSkipping verbose isPlaceCharacter (character :: inner) with
            | (name, '}' :: rest) =>
                match wordPlaces.lookup (String.ofList name) with
                | some place => .ok (place, rest)
                | none => .error .wordAssertionUnrecognized
            | _ => .error .wordAssertionUnclosed
          else .ok (.boundary, characters)
  | _ => .ok (.boundary, characters)

/-- Whether a character stands for itself after a backslash: every ASCII character but
letters, digits and angle brackets. -/
def isEscapable (character : Char) : Bool :=
  character.val < 0x80 && !character.isAlphanum && character != '<' && character != '>'

def controlEscapes : List (Char × Nat) :=
  [('a', 0x7), ('f', 0xC), ('t', 0x9), ('n', 0xA), ('r', 0xD), ('v', 0xB)]

/-- Letters after a backslash that stand for a class, and whether it is negated. -/
def letterEscapes : List (Char × LetterClass × Bool) :=
  [('d', .digit, false), ('D', .digit, true), ('s', .space, false), ('S', .space, true),
    ('w', .word, false), ('W', .word, true)]

def placeEscapes : List (Char × Place) :=
  [('A', .textStart), ('z', .textEnd), ('B', .word .notBoundary), ('<', .word .start),
    ('>', .word .finish)]

/-- Letters after a backslash that start a hexadecimal character, with its digits. -/
def hexEscapes : List (Char × Nat) :=
  [('x', 2), ('u', 4), ('U', 8)]

/-- The escapes that consist of one character. -/
def simpleEscape? (character : Char) : Option Term :=
  if isEscapable character then some (.literal character false)
  else
    match controlEscapes.lookup character, letterEscapes.lookup character,
        placeEscapes.lookup character with
    | some code, _, _ => some (.literal (Char.ofNat code) false)
    | _, some (kind, negated), _ => some (.letter kind negated)
    | _, _, some place => some (.place place)
    | none, none, none => none

def readEscape (verbose : Bool) : List Char → Reading Term
  | [] => .error .escapeUnfinished
  | character :: rest =>
      if character.isDigit then .error .backreference
      else if character == 'p' || character == 'P' then
        readProperty verbose (character == 'P') rest
      else if character == 'b' then
        (readWordPlace verbose rest).map fun (place, rest) => (.place (.word place), rest)
      else
        match hexEscapes.lookup character, simpleEscape? character with
        | some count, _ => readHex verbose count rest
        | none, some term => .ok (term, rest)
        | none, none => .error .escapeUnrecognized

end ListInvocation.Pattern
