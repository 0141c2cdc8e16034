/-!
Contract: the characters of names.

Which characters are letters and numbers is for the tables of the system's library to say,
and they grow with each version of Unicode. Only ASCII is the same in all of them.

Owns: the class `Alphabet`, and `isNameCharacter`.

Does not own: the table of any version, or where names may stand.
-/

namespace ListInvocation.Text

/-- The letters and numbers of a system's library. -/
class Alphabet where
  isAlphanumeric : Char → Bool
  isAlphanumeric_ascii : ∀ character : Char, character.toNat < 128 →
    isAlphanumeric character = character.isAlphanum

/-- Whether a character may stand in a name: a letter, a number or an underscore. -/
def isNameCharacter [Alphabet] (character : Char) : Bool :=
  character == '_' || Alphabet.isAlphanumeric character

end ListInvocation.Text
