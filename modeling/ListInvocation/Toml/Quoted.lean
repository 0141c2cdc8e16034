import ListInvocation.Toml.Lexical
import ListInvocation.Text.Hexadecimal

/-!
Contract: quoted texts of a TOML document.

Texts in double quotes know escapes, texts in single quotes do not. Three quotes open a
text of several lines, whose first line break is dropped.

Owns: the reading of all four kinds.

Does not own: where texts may stand.
-/

namespace ListInvocation.Toml

def doubleQuote : Char := Char.ofNat 0x22

def singleQuote : Char := Char.ofNat 0x27

def charOf? (code : Nat) : Option Char :=
  if code.isValidChar then some (Char.ofNat code) else none

def readCode (width : Nat) : Reader Char := fun text => do
  let digits := text.take width
  if digits.length < width then none
  let character ← charOf? (← Text.ofHexDigits? digits)
  return (character, text.drop width)

def readEscape : Reader Char
  | 'b' :: rest => some (Char.ofNat 0x8, rest)
  | 't' :: rest => some ('\t', rest)
  | 'n' :: rest => some ('\n', rest)
  | 'f' :: rest => some (Char.ofNat 0xC, rest)
  | 'r' :: rest => some ('\r', rest)
  | 'e' :: rest => some (Char.ofNat 0x1B, rest)
  | '\\' :: rest => some ('\\', rest)
  | 'x' :: rest => readCode 2 rest
  | 'u' :: rest => readCode 4 rest
  | 'U' :: rest => readCode 8 rest
  | character :: rest => if character = doubleQuote then some (doubleQuote, rest) else none
  | [] => none

def readLineText (quote : Char) (escapes : Bool) : (steps : Nat) → Reader (List Char)
  | 0, _ => none
  | _ + 1, [] => none
  | steps + 1, character :: rest =>
      if character = quote then some ([], rest)
      else do
        let (next, rest) ←
          if escapes ∧ character = '\\' then readEscape rest
          else if isPlain character then some (character, rest)
          else none
        let (others, rest) ← readLineText quote escapes steps rest
        return (next :: others, rest)

/-- Passes the line break that a backslash hides, with all blanks and line breaks
behind it. -/
def hiddenBreak? (text : List Char) : Option (List Char) := do
  let rest ← lineBreak? (skipBlanks text)
  let isSpace (character : Char) : Bool :=
    isInlineBlank character || character == '\n' || character == '\r'
  if (rest.takeWhile isSpace).contains '\r' && !breaksPaired (rest.takeWhile isSpace) then
    none
  return rest.dropWhile isSpace
where
  /-- Whether every carriage return comes before a line feed. -/
  breaksPaired : List Char → Bool
    | [] => true
    | '\r' :: '\n' :: rest => breaksPaired rest
    | character :: rest => character != '\r' && breaksPaired rest

/-- Closes a text of several lines at a run of at least three quotes, of which up to two
belong to the text. -/
def closeBlock? (quote : Char) (text : List Char) : Reader (List Char) := fun _ =>
  let run := (text.takeWhile (· == quote)).length
  if 3 ≤ run then
    let inside := min (run - 3) 2
    some (List.replicate inside quote, text.drop (inside + 3))
  else
    none

def readBlockText (quote : Char) (escapes : Bool) : (steps : Nat) → Reader (List Char)
  | 0, _ => none
  | _ + 1, [] => none
  | steps + 1, character :: rest =>
      let text := character :: rest
      match if character = quote then closeBlock? quote text text else none with
      | some closed => some closed
      | none =>
          match if escapes ∧ character = '\\' then hiddenBreak? rest else none with
          | some rest => readBlockText quote escapes steps rest
          | none => do
              let (next, rest) ←
                if escapes ∧ character = '\\' then readEscape rest
                else
                  match lineBreak? text with
                  | some rest => some ('\n', rest)
                  | none => if isPlain character then some (character, rest) else none
              let (others, rest) ← readBlockText quote escapes steps rest
              return (next :: others, rest)

/-- Reads a text in one kind of quotes; three of them open a text of several lines. -/
def readQuotedBy (quote : Char) (escapes : Bool) (blocks : Bool) : Reader String :=
  fun text => do
    let (inside, rest) ←
      if blocks ∧ text.take 3 = [quote, quote, quote] then
        let text := text.drop 3
        let text := (lineBreak? text).getD text
        readBlockText quote escapes (text.length + 1) text
      else do
        let text ← expect quote text
        readLineText quote escapes (text.length + 1) text
    return (String.ofList inside, rest)

/-- Reads a quoted text, of several lines only where they are allowed. -/
def readQuoted (blocks : Bool) : Reader String := fun text =>
  match text with
  | [] => none
  | character :: _ =>
      if character = doubleQuote then readQuotedBy doubleQuote true blocks text
      else if character = singleQuote then readQuotedBy singleQuote false blocks text
      else none

end ListInvocation.Toml
