import ListInvocation.Toml.Quoted
import ListInvocation.Toml.Table

/-!
Contract: the reading of a whole TOML document.

Owns: keys, values, headers and lines, and the table that a document denotes.

Does not own: the settings that an application looks for.
-/

namespace ListInvocation.Toml

def isBareKeyCharacter (character : Char) : Bool :=
  character.isAlphanum || character == '_' || character == '-'

def readSimpleKey : Reader String := fun text =>
  let bare := text.takeWhile isBareKeyCharacter
  if bare.isEmpty then readQuoted false text
  else some (String.ofList bare, text.dropWhile isBareKeyCharacter)

def readKey : (parts : Nat) → Reader (List String)
  | 0, _ => none
  | parts + 1, text => do
      let (first, rest) ← readSimpleKey (skipBlanks text)
      match skipBlanks rest with
      | '.' :: rest =>
          let (others, rest) ← readKey parts rest
          return (first :: others, rest)
      | rest => return ([first], rest)

def readDottedKey : Reader (List String) := fun text =>
  readKey (text.length + 1) text

def readAssignment (value : Reader Item) : Reader (List String × Item) := fun text => do
  let (key, rest) ← readDottedKey text
  let (item, rest) ← value (skipBlanks (← expect '=' rest))
  return ((key, item), rest)

/-- Reads elements between commas up to a closing bracket; a comma may stand before it. -/
def readElements {α : Type} (element : Reader α) (closing : Char) :
    (steps : Nat) → Reader (List α)
  | 0, _ => none
  | steps + 1, text =>
      let text := skipSpace text
      match expect closing text with
      | some rest => some ([], rest)
      | none => do
          let (first, rest) ← element text
          let rest := skipSpace rest
          match expect closing rest with
          | some rest => return ([first], rest)
          | none =>
              let (others, rest) ← readElements element closing steps (← expect ',' rest)
              return (first :: others, rest)

def entriesOf (assignments : List (List String × Item)) : Option Entries :=
  assignments.foldlM (fun entries assignment =>
    insertDotted assignment.1 assignment.2 entries) []

/-- Reads a value in which arrays and tables are nested at most `levels` deep. -/
def readValue : (levels : Nat) → Reader Item
  | 0, text =>
      (readQuoted true text).map (fun (value, rest) => (.text value, rest))
        <|> (readScalar text).map (fun (value, rest) => (.scalar value, rest))
  | levels + 1, text =>
      match text with
      | '[' :: rest => do
          let (items, rest) ← readElements (readValue levels) ']' (rest.length + 1) rest
          return (.array items, rest)
      | '\x7b' :: rest => do
          let (assignments, rest) ←
            readElements (readAssignment (readValue levels)) '\x7d' (rest.length + 1) rest
          return (.table .inline (← entriesOf assignments), rest)
      | _ =>
          (readQuoted true text).map (fun (value, rest) => (.text value, rest))
            <|> (readScalar text).map (fun (value, rest) => (.scalar value, rest))

def maxNesting : Nat := 80

/-- What has been read of a document: its table, and the path of the last header. -/
structure Progress where
  entries : Entries
  header : List String

def readHeader (progress : Progress) : List Char → Option (Progress × List Char)
  | '[' :: '[' :: rest => do
      let (path, rest) ← readDottedKey rest
      let rest ← expect ']' (← expect ']' rest)
      return (⟨← atLastKey .header path openElement progress.entries, path⟩, rest)
  | '[' :: rest => do
      let (path, rest) ← readDottedKey rest
      let rest ← expect ']' rest
      return (⟨← atLastKey .header path openTable progress.entries, path⟩, rest)
  | _ => none

def readEntry (progress : Progress) (text : List Char) : Option (Progress × List Char) := do
  let ((key, item), rest) ← readAssignment (readValue maxNesting) text
  let entries ← changeAt .current progress.header (insertDotted key item) progress.entries
  return ({ progress with entries := entries }, rest)

def readLines : (lines : Nat) → Progress → List Char → Option Entries
  | 0, _, _ => none
  | lines + 1, progress, text =>
      let text := skipSpace text
      match text with
      | [] => some progress.entries
      | first :: _ => do
          let (progress, rest) ←
            if first = '[' then readHeader progress text else readEntry progress text
          readLines lines progress (← endOfLine? rest)

def withoutByteOrderMark : List Char → List Char
  | first :: rest => if first.toNat = 0xFEFF then rest else first :: rest
  | [] => []

def readDocument (text : String) : Option Entries :=
  let text := withoutByteOrderMark text.toList
  readLines (text.length + 1) ⟨[], []⟩ text

end ListInvocation.Toml
