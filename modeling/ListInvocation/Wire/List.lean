import ListInvocation.Tree
import ListInvocation.Text.Bytes
import ListInvocation.Decimal.Natural
import ListInvocation.Wire.Error

/-!
Contract: the length-prefixed text of a list, written and read.

A list is `[`, the number of elements, `:`, then for each element its length in
bytes, `:`, its text and `:`, and last `]`. A nested list is an element whose
text is again such a list. Numbers are written with at least six digits.

An element is read as a nested list exactly when its text is one and the nesting
limit is not reached; every other element stays a text leaf.

Owns: `encode`, `decode`, and the cursor with which a list is read.

Does not own: frames around a list, or what its elements mean.
-/

namespace ListInvocation.Wire

open ListInvocation.Text ListInvocation.Decimal

/-- The least number of digits written for a count or a length. -/
def lengthWidth : Nat := 6

/-- The greatest number of digits read for a count or a length. -/
def maxLengthDigits : Nat := 9

/-- Lists nested deeper than this below the root stay text. -/
def maxNesting : Nat := 64

/-- The number of bytes of the shortest element that is ever written. -/
def minElementBytes : Nat := lengthWidth + 2

/-- A count or length as it is written, with the colon that ends it. -/
def encodeLength (length : Nat) : List Char :=
  paddedDigits lengthWidth length ++ [':']

def encodeElement (text : List Char) : List Char :=
  encodeLength (byteSize text) ++ text ++ [':']

def encodeElements (texts : List (List Char)) : List Char :=
  '[' :: encodeLength texts.length ++ texts.flatMap encodeElement ++ [']']

mutual

/-- The text of an element that holds a tree: a leaf's own text, a list's encoding. -/
def elementText : Tree String → List Char
  | .leaf value => value.toList
  | .node _ branches => encodeElements (elementTexts branches)

def elementTexts : List (Tree String) → List (List Char)
  | [] => []
  | tree :: trees => elementText tree :: elementTexts trees

end

/-- The encoding of the branches of a tree; the root's own value is not carried. -/
def encodeChars (tree : Tree String) : List Char :=
  encodeElements (elementTexts tree.branches)

def encode (tree : Tree String) : String :=
  String.ofList (encodeChars tree)

/-- A position in a text: the bytes already passed and the characters still ahead. -/
structure Cursor where
  offset : Nat
  rest : List Char
deriving Repr, DecidableEq

namespace Cursor

def start (text : List Char) : Cursor :=
  ⟨0, text⟩

def expect (delimiter : Char) (cursor : Cursor) : Except WireError Cursor :=
  match cursor.rest with
  | [] => .error (.truncated cursor.offset)
  | character :: rest =>
      if character = delimiter then
        .ok ⟨cursor.offset + delimiter.utf8Size, rest⟩
      else
        .error (.missingDelimiter delimiter cursor.offset)

def readLength (cursor : Cursor) : Except WireError (Nat × Cursor) :=
  let run := cursor.rest.takeWhile isDigit
  if run.length = 0 ∨ maxLengthDigits < run.length then
    .error (.invalidLength cursor.offset)
  else
    match expect ':' ⟨cursor.offset + run.length, cursor.rest.drop run.length⟩ with
    | .ok next => .ok (ofDigits run, next)
    | .error error => .error error

/-- Passes exactly `length` bytes of text. A text that is too short fails at its end, a
border inside a character at the start. -/
def take (length : Nat) (cursor : Cursor) : Except WireError (List Char × Cursor) :=
  match splitAtByte length cursor.rest with
  | some (text, rest) => .ok (text, ⟨cursor.offset + length, rest⟩)
  | none =>
      let remaining := byteSize cursor.rest
      if remaining < length then .error (.truncated (cursor.offset + remaining))
      else .error (.invalidLength cursor.offset)

def readElement (cursor : Cursor) : Except WireError (List Char × Cursor) := do
  let (length, cursor) ← readLength cursor
  let (text, cursor) ← take length cursor
  let cursor ← expect ':' cursor
  return (text, cursor)

def readElements : Nat → Cursor → Except WireError (List (List Char) × Cursor)
  | 0, cursor => .ok ([], cursor)
  | count + 1, cursor => do
      let (text, cursor) ← readElement cursor
      let (texts, cursor) ← readElements count cursor
      return (text :: texts, cursor)

/-- Reads a list and returns the texts of its elements. A count that the rest of the
text cannot hold is refused before any element is read. -/
def readList (cursor : Cursor) : Except WireError (List (List Char) × Cursor) := do
  let cursor ← expect '[' cursor
  let (count, cursor) ← readLength cursor
  if byteSize cursor.rest / minElementBytes < count then
    throw (.invalidLength cursor.offset)
  let (texts, cursor) ← readElements count cursor
  let cursor ← expect ']' cursor
  return (texts, cursor)

end Cursor

def splitList (text : List Char) : Except WireError (List (List Char)) := do
  let (texts, cursor) ← (Cursor.start text).readList
  if cursor.rest.isEmpty then
    return texts
  else
    throw (.trailingData cursor.offset)

/-- Reads an element as a nested list when its text is one and a level is left. -/
def decodeElement : (levels : Nat) → (text : List Char) → Tree String
  | 0, text => .text (String.ofList text)
  | levels + 1, text =>
      match splitList text with
      | .ok texts => .list (texts.map (decodeElement levels))
      | .error _ => .text (String.ofList text)

/-- Reads one list with room for `levels` further levels of nesting. -/
def decodeWithin (levels : Nat) (text : List Char) : Except WireError (Tree String) :=
  match splitList text with
  | .ok texts => .ok (.list (texts.map (decodeElement levels)))
  | .error error => .error error

def decodeChars (text : List Char) : Except WireError (Tree String) :=
  decodeWithin maxNesting text

/-- Reads a wire text that is exactly one list. -/
def decode (text : String) : Except WireError (Tree String) :=
  decodeChars text.toList

end ListInvocation.Wire
