import ListInvocation.Pattern.Error
import ListInvocation.Pattern.Expression
import ListInvocation.Pattern.Term
import ListInvocation.Unicode.CaseFolding

/-!
Contract: from written patterns to expressions.

Flags hold from where they are set to the end of their group. Case is ignored by taking
a class together with what differs only in case, before the class is negated. Without
Unicode a pattern knows ASCII characters only, and what could match part of a character
is a fault.

Owns: the characters of classes and the meaning of terms under flags.

Does not own: the reading of patterns, or the search.
-/

namespace ListInvocation.Pattern

open Text (CharacterSet)

/-- The flags that bear on the meaning of a term. -/
structure Flags where
  ignoreCase : Bool
  multiLine : Bool
  dotAll : Bool
  carriageReturn : Bool
  unicode : Bool
deriving Repr, DecidableEq

namespace Flags

def standard : Flags := ⟨false, false, false, false, true⟩

def apply (flags : Flags) (setting : FlagSetting) : Flags where
  ignoreCase := (setting.state? .ignoreCase).getD flags.ignoreCase
  multiLine := (setting.state? .multiLine).getD flags.multiLine
  dotAll := (setting.state? .dotAll).getD flags.dotAll
  carriageReturn := (setting.state? .carriageReturn).getD flags.carriageReturn
  unicode := (setting.state? .unicode).getD flags.unicode

end Flags

def asciiCharacters : CharacterSet := .ofRange 0 0x7F

def asciiDigits : CharacterSet := .ofRange 0x30 0x39

def asciiCapitals : CharacterSet := .ofRange 0x41 0x5A

def asciiSmalls : CharacterSet := .ofRange 0x61 0x7A

def asciiBlanks : CharacterSet := .union (.ofRange 0x9 0xD) (.ofChar ' ')

def asciiWordCharacters : CharacterSet :=
  .unionAll [asciiDigits, asciiCapitals, asciiSmalls, .ofChar '_']

namespace NamedClass

def characters : NamedClass → CharacterSet
  | alnum => .unionAll [asciiDigits, asciiCapitals, asciiSmalls]
  | alpha => .union asciiCapitals asciiSmalls
  | ascii => asciiCharacters
  | blank => .ofChars ['\t', ' ']
  | cntrl => .union (.ofRange 0 0x1F) (.ofRange 0x7F 0x7F)
  | digit => asciiDigits
  | graph => .ofRange 0x21 0x7E
  | lower => asciiSmalls
  | print => .ofRange 0x20 0x7E
  | punct =>
      .unionAll [.ofRange 0x21 0x2F, .ofRange 0x3A 0x40, .ofRange 0x5B 0x60, .ofRange 0x7B 0x7E]
  | space => asciiBlanks
  | upper => asciiCapitals
  | word => asciiWordCharacters
  | xdigit => .unionAll [asciiDigits, .ofRange 0x41 0x46, .ofRange 0x61 0x66]

end NamedClass

namespace LetterClass

def asciiMembers : LetterClass → CharacterSet
  | digit => asciiDigits
  | space => asciiBlanks
  | word => asciiWordCharacters

def members : LetterClass → CharacterSet
  | digit => (Unicode.categories.find? "nd").getD .empty
  | space => (Unicode.binaryProperties.find? "whitespace").getD .empty
  | word => Unicode.wordCharacters

end LetterClass

/-- A class together with what differs only in case, if case is ignored. -/
def foldFor (flags : Flags) (set : CharacterSet) : CharacterSet :=
  if !flags.ignoreCase then set
  else if flags.unicode then Unicode.foldCase set
  else (Unicode.foldCase set).intersection asciiCharacters

def negateFor (flags : Flags) (negated : Bool) (set : CharacterSet) :
    Except PatternFault CharacterSet :=
  if !negated then .ok set
  else if flags.unicode then .ok set.complement
  else .error .invalidText

def letterMembers (flags : Flags) (kind : LetterClass) (negated : Bool) :
    Except PatternFault CharacterSet :=
  negateFor flags negated (if flags.unicode then kind.members else kind.asciiMembers)

def propertyMembers (flags : Flags) (query : Unicode.PropertyQuery) (negated : Bool) :
    Except PatternFault CharacterSet :=
  if !flags.unicode then .error .unicodeNotAllowed
  else
    match query.answer? with
    | some set => negateFor flags negated (foldFor flags set)
    | none => .error .propertyNotFound

/-- Checks a character of a class. Without Unicode it must belong to ASCII. -/
def checkClassLiteral (flags : Flags) (character : Char) (byte : Bool) :
    Except PatternFault Unit :=
  if flags.unicode || character.val < 0x80 then .ok ()
  else if byte && character.val ≤ 0xFF then .error .invalidText
  else .error .unicodeNotAllowed

def ClassOperation.apply (operation : ClassOperation) (left right : CharacterSet) :
    CharacterSet :=
  match operation with
  | intersection => left.intersection right
  | difference => left.difference right
  | symmetricDifference => left.symmetricDifference right

namespace ClassTerm

mutual

def members (flags : Flags) : ClassTerm → Except PatternFault CharacterSet
  | .empty => .ok .empty
  | .literal character byte => do
      checkClassLiteral flags character byte
      return .ofChar character
  | .range first firstByte last lastByte => do
      checkClassLiteral flags first firstByte
      checkClassLiteral flags last lastByte
      return .ofRange first.toNat last.toNat
  | .named kind negated => negateFor flags negated (foldFor flags kind.characters)
  | .letter kind negated => letterMembers flags kind negated
  | .property query negated => propertyMembers flags query negated
  | .bracketed negated body => do
      let set ← members flags body
      negateFor flags negated (foldFor flags set)
  | .union items => membersOfAll flags items
  | .combined operation left right => do
      let left ← members flags left
      let right ← members flags right
      return operation.apply (foldFor flags left) (foldFor flags right)

def membersOfAll (flags : Flags) : List ClassTerm → Except PatternFault CharacterSet
  | [] => .ok .empty
  | item :: items => do
      let set ← members flags item
      let others ← membersOfAll flags items
      return set.union others

end

end ClassTerm

def literalMeaning (flags : Flags) (character : Char) (byte : Bool) :
    Except PatternFault Expression :=
  if flags.unicode then .ok (.one (foldFor flags (.ofChar character)))
  else if character.val < 0x80 then .ok (.one (foldFor flags (.ofChar character)))
  else if byte then .error .invalidText
  else .ok (.one (.ofChar character))

/-- The meaning of a dot: any character but the ends of lines. -/
def dotMeaning (flags : Flags) : Except PatternFault Expression :=
  if !flags.unicode then .error .invalidText
  else if flags.dotAll then .ok (.one .full)
  else if flags.carriageReturn then .ok (.one (CharacterSet.ofChars ['\n', '\r']).complement)
  else .ok (.one (CharacterSet.ofChar '\n').complement)

def WordPlace.meaning (characters : CharacterSet) : WordPlace → Assertion
  | boundary => .wordBoundary characters
  | notBoundary => .notWordBoundary characters
  | start => .wordStart characters
  | finish => .wordEnd characters
  | startHalf => .wordStartHalf characters
  | finishHalf => .wordEndHalf characters

def Place.meaning (flags : Flags) : Place → Assertion
  | lineStart =>
      if !flags.multiLine then .textStart
      else if flags.carriageReturn then .returnLineStart
      else .lineStart
  | lineEnd =>
      if !flags.multiLine then .textEnd
      else if flags.carriageReturn then .returnLineEnd
      else .lineEnd
  | textStart => .textStart
  | textEnd => .textEnd
  | word place =>
      place.meaning (if flags.unicode then Unicode.wordCharacters else asciiWordCharacters)

def GroupKind.inner (kind : GroupKind) (flags : Flags) : Flags :=
  match kind with
  | capturing => flags
  | plain setting => flags.apply setting

def GroupKind.enclose (kind : GroupKind) (body : Expression) : Expression :=
  match kind with
  | capturing => .captured body
  | plain _ => body

namespace Term

mutual

/-- The meaning of a term, and the flags after it. -/
def meaning (current : Flags) : Term → Except PatternFault (Expression × Flags)
  | .empty => .ok (.nothing, current)
  | .flags setting => .ok (.nothing, current.apply setting)
  | .literal character byte => do return (← literalMeaning current character byte, current)
  | .dot => do return (← dotMeaning current, current)
  | .place asked => .ok (.asserted (asked.meaning current), current)
  | .letter kind negated => do return (.one (← letterMembers current kind negated), current)
  | .property query negated => do
      return (.one (← propertyMembers current query negated), current)
  | .bracketed negated body => do
      let set ← body.members current
      return (.one (← negateFor current negated (foldFor current set)), current)
  | .repetition body least most? => do
      let (expression, next) ← meaning current body
      return (.repeated expression least most?, next)
  | .group kind body => do
      let (expression, _) ← meaning (kind.inner current) body
      return (kind.enclose expression, current)
  | .alternation branches => do
      let (expressions, next) ← meanings current branches
      return (.ofChoice expressions, next)
  | .concatenation items => do
      let (expressions, next) ← meanings current items
      return (.ofSequence expressions, next)

/-- The meanings of terms, each under the flags that the one before leaves. -/
def meanings (current : Flags) : List Term → Except PatternFault (List Expression × Flags)
  | [] => .ok ([], current)
  | item :: items => do
      let (expression, next) ← meaning current item
      let (expressions, last) ← meanings next items
      return (expression :: expressions, last)

end

end Term

end ListInvocation.Pattern
