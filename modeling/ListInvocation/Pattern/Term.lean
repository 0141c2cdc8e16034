import ListInvocation.Unicode.Property

/-!
Contract: patterns as they are written.

Owns: the grammar of patterns as a type, and how deeply a pattern is nested.

Does not own: the reading of patterns, or their meaning.
-/

namespace ListInvocation.Pattern

/-- What can be switched on and off inside a pattern. -/
inductive Flag where
  | ignoreCase
  | multiLine
  | dotAll
  | swapGreed
  | unicode
  | carriageReturn
  | verbose
deriving Repr, DecidableEq

structure FlagSetting where
  on : List Flag
  off : List Flag
deriving Repr, DecidableEq

/-- What a setting does to a flag, if anything. -/
def FlagSetting.state? (setting : FlagSetting) (flag : Flag) : Option Bool :=
  if setting.on.contains flag then some true
  else if setting.off.contains flag then some false
  else none

/-- Classes that one letter stands for. -/
inductive LetterClass where
  | digit
  | space
  | word
deriving Repr, DecidableEq

/-- Classes of ASCII characters that have a name in brackets. -/
inductive NamedClass where
  | alnum
  | alpha
  | ascii
  | blank
  | cntrl
  | digit
  | graph
  | lower
  | print
  | punct
  | space
  | upper
  | word
  | xdigit
deriving Repr, DecidableEq

inductive ClassOperation where
  | intersection
  | difference
  | symmetricDifference
deriving Repr, DecidableEq

inductive ClassTerm where
  | empty
  /-- A character; `byte` tells whether it is written with two hexadecimal digits. -/
  | literal (character : Char) (byte : Bool)
  | range (first : Char) (firstByte : Bool) (last : Char) (lastByte : Bool)
  | named (kind : NamedClass) (negated : Bool)
  | letter (kind : LetterClass) (negated : Bool)
  | property (query : Unicode.PropertyQuery) (negated : Bool)
  | bracketed (negated : Bool) (body : ClassTerm)
  | union (items : List ClassTerm)
  | combined (operation : ClassOperation) (left right : ClassTerm)

inductive WordPlace where
  | boundary
  | notBoundary
  | start
  | finish
  | startHalf
  | finishHalf
deriving Repr, DecidableEq

inductive Place where
  | lineStart
  | lineEnd
  | textStart
  | textEnd
  | word (place : WordPlace)
deriving Repr, DecidableEq

inductive GroupKind where
  | capturing
  | plain (setting : FlagSetting)
deriving Repr, DecidableEq

inductive Term where
  | empty
  | flags (setting : FlagSetting)
  /-- A character; `byte` tells whether it is written with two hexadecimal digits. -/
  | literal (character : Char) (byte : Bool)
  | dot
  | place (place : Place)
  | letter (kind : LetterClass) (negated : Bool)
  | property (query : Unicode.PropertyQuery) (negated : Bool)
  | bracketed (negated : Bool) (body : ClassTerm)
  | repetition (body : Term) (least : Nat) (most? : Option Nat)
  | group (kind : GroupKind) (body : Term)
  | alternation (branches : List Term)
  | concatenation (items : List Term)

namespace ClassTerm

/-- The items between two brackets or operators as one class. -/
def ofItems : List ClassTerm → ClassTerm
  | [] => .empty
  | [item] => item
  | items => .union items

mutual

def depth : ClassTerm → Nat
  | .empty | .literal _ _ | .range _ _ _ _ | .named _ _ | .letter _ _ | .property _ _ => 0
  | .bracketed _ body => depth body + 1
  | .union items => depths items + 1
  | .combined _ left right => max (depth left) (depth right) + 1

def depths : List ClassTerm → Nat
  | [] => 0
  | item :: items => max (depth item) (depths items)

end

end ClassTerm

namespace Term

/-- Terms in a row as one term. -/
def ofItems : List Term → Term
  | [] => .empty
  | [item] => item
  | items => .concatenation items

def ofBranches : List Term → Term
  | [branch] => branch
  | branches => .alternation branches

mutual

def depth : Term → Nat
  | .empty | .flags _ | .literal _ _ | .dot | .place _ | .letter _ _ | .property _ _ => 0
  | .bracketed _ body => body.depth + 1
  | .repetition body _ _ => depth body + 1
  | .group _ body => depth body + 1
  | .alternation branches => depths branches + 1
  | .concatenation items => depths items + 1

def depths : List Term → Nat
  | [] => 0
  | item :: items => max (depth item) (depths items)

end

end Term

end ListInvocation.Pattern
