/-!
Contract: blank characters, and text without the blanks around it.

A character is blank when it has the Unicode property White_Space.

Owns: `isBlank` and the trimming of text.

Does not own: the blanks that a grammar may allow between its tokens.
-/

namespace ListInvocation.Text

/-- Whether a character has the property White_Space. -/
def isBlank (character : Char) : Bool :=
  let code := character.toNat
  (0x9 ≤ code && code ≤ 0xD) || code == 0x20 || code == 0x85 || code == 0xA0
    || code == 0x1680 || (0x2000 ≤ code && code ≤ 0x200A) || code == 0x2028
    || code == 0x2029 || code == 0x202F || code == 0x205F || code == 0x3000

def trimStart (text : List Char) : List Char :=
  text.dropWhile isBlank

def trimEnd (text : List Char) : List Char :=
  (text.reverse.dropWhile isBlank).reverse

def trim (text : List Char) : List Char :=
  trimEnd (trimStart text)

def trimmed (text : String) : String :=
  String.ofList (trim text.toList)

end ListInvocation.Text
