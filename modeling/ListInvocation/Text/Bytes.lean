/-!
Contract: lengths of text in bytes, where text is a list of characters.

Owns: the number of bytes that a list of characters takes in UTF-8, and the
split of a text after a number of bytes.

Does not own: the UTF-8 encoding itself.
-/

namespace ListInvocation.Text

/-- The number of bytes of a text in UTF-8. -/
def byteSize (text : List Char) : Nat :=
  text.foldl (fun size character => size + character.utf8Size) 0

/-- Walks to the end of the first `count` bytes, collecting what it passes in reverse. -/
def splitAtByteFrom (passed : List Char) : Nat → List Char → Option (List Char × List Char)
  | 0, rest => some (passed.reverse, rest)
  | _ + 1, [] => none
  | count + 1, character :: rest =>
      if character.utf8Size ≤ count + 1 then
        splitAtByteFrom (character :: passed) (count + 1 - character.utf8Size) rest
      else
        none
termination_by _ text => text.length

/-- The first `count` bytes of a text and what follows them; none when the text is
shorter or the border falls inside a character. -/
def splitAtByte (count : Nat) (text : List Char) : Option (List Char × List Char) :=
  splitAtByteFrom [] count text

end ListInvocation.Text
