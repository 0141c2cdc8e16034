import ListInvocation.Decimal.Natural

/-!
Contract: the characters of a TOML document, and what may stand between its parts.

Owns: readers as functions on the text ahead, blanks, line breaks and comments.

Does not own: keys and values.
-/

namespace ListInvocation.Toml

/-- Something that reads from the start of a text and returns what follows. -/
abbrev Reader (α : Type) := List Char → Option (α × List Char)

/-- Whether a character may stand in a comment or inside quotes: a tab, or no control
character. -/
def isPlain (character : Char) : Bool :=
  let code := character.toNat
  code == 0x9 || (0x20 ≤ code && code != 0x7F)

def isInlineBlank (character : Char) : Bool :=
  character == ' ' || character == '\t'

def skipBlanks (text : List Char) : List Char :=
  text.dropWhile isInlineBlank

def expect (expected : Char) : List Char → Option (List Char)
  | [] => none
  | character :: rest => if character = expected then some rest else none

def lineBreak? : List Char → Option (List Char)
  | '\n' :: rest => some rest
  | '\r' :: '\n' :: rest => some rest
  | _ => none

def skipComment : List Char → List Char
  | '#' :: rest => rest.dropWhile isPlain
  | text => text

def endOfLine? (text : List Char) : Option (List Char) :=
  match skipComment (skipBlanks text) with
  | [] => some []
  | rest => lineBreak? rest

def skipLines : (lines : Nat) → List Char → List Char
  | 0, text => skipBlanks text
  | lines + 1, text =>
      let rest := skipComment (skipBlanks text)
      match lineBreak? rest with
      | some next => skipLines lines next
      | none => rest

def skipSpace (text : List Char) : List Char :=
  skipLines text.length text

end ListInvocation.Toml
