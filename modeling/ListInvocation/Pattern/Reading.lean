import ListInvocation.Pattern.Bracket
import ListInvocation.Text.Alphanumeric

/-!
Contract: the reading of patterns.

Groups nest, alternatives bind weakest and repetitions strongest. A repetition follows
the one term that it repeats. Flags hold to the end of the group that they stand in.

Owns: the reading of groups, flags and repetitions, and the limit on nesting.

Does not own: escapes and classes.
-/

namespace ListInvocation.Pattern

/-- A group that is still open, with what was read before it, the last part first. -/
structure OpenGroup where
  kind : GroupKind
  verbose : Bool
  branches : List Term
  items : List Term

structure Progress where
  verbose : Bool
  /-- The names of the groups so far. -/
  names : List String
  groups : List OpenGroup
  /-- The alternatives before this one, the last one first. -/
  branches : List Term
  /-- The terms of this alternative, the last one first. -/
  items : List Term

def flagLetters : List (Char × Flag) :=
  [('i', .ignoreCase), ('m', .multiLine), ('s', .dotAll), ('U', .swapGreed), ('u', .unicode),
    ('R', .carriageReturn), ('x', .verbose)]

inductive FlagsEnd where
  | colon
  | closing
deriving Repr, DecidableEq

/-- Reads flags. `negating` tells whether a hyphen has been read, and `dangling` whether it
was the last character. -/
def readFlags (setting : FlagSetting) (negating dangling : Bool) :
    List Char → Reading (FlagSetting × FlagsEnd)
  | [] => .error .flagMissing
  | character :: rest =>
      if character == ':' || character == ')' then
        if dangling then .error .negationDangling
        else .ok ((setting, if character == ':' then .colon else .closing), rest)
      else if character == '-' then
        if negating then .error .negationRepeated
        else readFlags setting true true rest
      else
        match flagLetters.lookup character with
        | none => .error .flagUnrecognized
        | some flag =>
            if (setting.state? flag).isSome then .error .flagDuplicate
            else if negating then
              readFlags { setting with off := setting.off ++ [flag] } true false rest
            else readFlags { setting with on := setting.on ++ [flag] } false false rest

def isGroupNameCharacter (first : Bool) (character : Char) : Bool :=
  if first then character == '_' || Unicode.alphabetic.contains character
  else
    character == '_' || character == '.' || character == '[' || character == ']'
      || Text.alphanumeric.contains character

def isGroupName : List Char → Bool
  | [] => true
  | first :: rest => isGroupNameCharacter true first && rest.all (isGroupNameCharacter false)

def readGroupName (names : List String) (characters : List Char) : Reading String :=
  let name := characters.takeWhile (· != '>')
  match characters.dropWhile (· != '>') with
  | [] => .error .groupNameUnclosed
  | _ :: rest =>
      if !isGroupName name then .error .groupNameInvalid
      else if name.isEmpty then .error .groupNameEmpty
      else if names.contains (String.ofList name) then .error .groupNameDuplicate
      else .ok (String.ofList name, rest)

namespace Progress

def start : Progress := ⟨false, [], [], [], []⟩

def add (progress : Progress) (term : Term) : Progress :=
  { progress with items := term :: progress.items }

def body (progress : Progress) : Term :=
  .ofBranches ((Term.ofItems progress.items.reverse :: progress.branches).reverse)

def alternate (progress : Progress) : Progress :=
  { progress with
    branches := .ofItems progress.items.reverse :: progress.branches
    items := [] }

def openGroup (progress : Progress) (kind : GroupKind) (verbose : Bool) : Progress :=
  { progress with
    verbose := verbose
    groups := ⟨kind, progress.verbose, progress.branches, progress.items⟩ :: progress.groups
    branches := []
    items := [] }

def closeGroup (progress : Progress) : Except PatternFault Progress :=
  match progress.groups with
  | [] => .error .groupUnopened
  | group :: groups =>
      .ok { progress with
        verbose := group.verbose
        groups := groups
        branches := group.branches
        items := .group group.kind progress.body :: group.items }

def openNamed (progress : Progress) (characters : List Char) :
    Except PatternFault (Progress × List Char) := do
  let (name, rest) ← readGroupName progress.names characters
  let named := { progress with names := name :: progress.names }
  return (named.openGroup .capturing progress.verbose, rest)

def openFlagged (progress : Progress) (characters : List Char) :
    Except PatternFault (Progress × List Char) := do
  let ((setting, ending), rest) ← readFlags ⟨[], []⟩ false false characters
  let verbose := (setting.state? .verbose).getD progress.verbose
  match ending with
  | .colon => return (progress.openGroup (.plain setting) verbose, rest)
  | .closing =>
      if setting.on.isEmpty && setting.off.isEmpty then throw .repetitionMissing
      else return ({ progress with verbose := verbose }.add (.flags setting), rest)

def openParenthesis (progress : Progress) (characters : List Char) :
    Except PatternFault (Progress × List Char) :=
  match skipBlanks progress.verbose characters with
  | '?' :: '=' :: _ | '?' :: '!' :: _ | '?' :: '<' :: '=' :: _ | '?' :: '<' :: '!' :: _ =>
      .error .lookAround
  | '?' :: 'P' :: '<' :: rest | '?' :: '<' :: rest => progress.openNamed rest
  | '?' :: rest => progress.openFlagged rest
  | rest => .ok (progress.openGroup .capturing progress.verbose, rest)

def repeatLast (progress : Progress) (least : Nat) (most? : Option Nat) :
    Except PatternFault Progress :=
  match progress.items with
  | [] | .flags _ :: _ => .error .repetitionMissing
  | term :: items => .ok { progress with items := .repetition term least most? :: items }

end Progress

def dropLazyMark : List Char → List Char
  | '?' :: rest => rest
  | characters => characters

def largestCount : Nat := 0xFFFFFFFF

def readCount (verbose : Bool) (characters : List Char) : Reading Nat :=
  match takeWhileSkipping verbose Decimal.isDigit (characters.dropWhile Text.isBlank) with
  | ([], _) => .error .countMissing
  | (digits, rest) =>
      let count := Decimal.ofDigits digits
      if count ≤ largestCount then .ok (count, rest.dropWhile Text.isBlank)
      else .error .countTooLarge

def readMost (verbose : Bool) (characters : List Char) :
    Except PatternFault (Option Nat × List Char) :=
  match skipBlanks verbose characters with
  | '}' :: rest => .ok (none, '}' :: rest)
  | characters => (readCount verbose characters).map fun (most, rest) => (some most, rest)

structure Counts where
  least : Nat
  most? : Option Nat

def readCounts (verbose : Bool) (characters : List Char) :
    Except PatternFault (Counts × List Char) := do
  let (least, rest) ← readCount verbose (skipBlanks verbose characters)
  let (most?, rest) ← match rest with
    | ',' :: rest => readMost verbose rest
    | rest => pure (some least, rest)
  match rest with
  | '}' :: rest =>
      if (most?.getD least) < least then throw .countInvalid
      else return (⟨least, most?⟩, dropLazyMark (skipBlanks verbose rest))
  | _ => throw .countUnclosed

def readPrimitive (verbose : Bool) (character : Char) (rest : List Char) : Reading Term :=
  match character with
  | '\\' => readEscape verbose rest
  | '.' => .ok (.dot, rest)
  | '^' => .ok (.place .lineStart, rest)
  | '$' => .ok (.place .lineEnd, rest)
  | character => .ok (.literal character false, rest)

/-- Reads one part of a pattern, which starts with a character. -/
def Progress.step (progress : Progress) (character : Char) (rest : List Char) :
    Except PatternFault (Progress × List Char) :=
  match character with
  | '(' => progress.openParenthesis rest
  | ')' => progress.closeGroup.map fun closed => (closed, rest)
  | '|' => .ok (progress.alternate, rest)
  | '[' =>
      (readBracketed progress.verbose rest).map fun (term, rest) => (progress.add term, rest)
  | '?' => (progress.repeatLast 0 (some 1)).map fun next => (next, dropLazyMark rest)
  | '*' => (progress.repeatLast 0 none).map fun next => (next, dropLazyMark rest)
  | '+' => (progress.repeatLast 1 none).map fun next => (next, dropLazyMark rest)
  | '{' => do
      let (counts, rest) ← readCounts progress.verbose rest
      return (← progress.repeatLast counts.least counts.most?, rest)
  | character =>
      (readPrimitive progress.verbose character rest).map fun (term, rest) =>
        (progress.add term, rest)

/-- Reads to the end of a pattern. Every turn takes a character, so that as many turns as
there are characters are enough. -/
def readTerms : Nat → Progress → List Char → Except PatternFault Progress
  | 0, progress, _ => .ok progress
  | turns + 1, progress, characters =>
      match skipBlanks progress.verbose characters with
      | [] => .ok progress
      | character :: rest => do
          let (progress, rest) ← progress.step character rest
          readTerms turns progress rest

def nestingLimit : Nat := 250

def Term.ofText (text : String) : Except PatternFault Term := do
  let characters := text.toList
  let progress ← readTerms characters.length .start characters
  let term := progress.body
  if !progress.groups.isEmpty then throw .groupUnclosed
  else if nestingLimit < term.depth then throw (.nestedTooDeeply nestingLimit)
  else return term

end ListInvocation.Pattern
