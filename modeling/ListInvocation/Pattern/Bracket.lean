import ListInvocation.Pattern.Escape

/-!
Contract: classes between brackets.

Brackets nest; operators between classes take what stands before and after them, from
left to right. A hyphen at the start and a closing bracket in the first place stand for
themselves.

Owns: the reading of classes.

Does not own: escapes, or the characters of a class.
-/

namespace ListInvocation.Pattern

inductive ClassFrame where
  /-- An open bracket, with the items before it, the last one first. -/
  | bracket (negated : Bool) (before : List ClassTerm)
  /-- An operator with what stands before it. -/
  | operand (operation : ClassOperation) (left : ClassTerm)

def namedClasses : List (String × NamedClass) :=
  [("alnum", .alnum), ("alpha", .alpha), ("ascii", .ascii), ("blank", .blank),
    ("cntrl", .cntrl), ("digit", .digit), ("graph", .graph), ("lower", .lower),
    ("print", .print), ("punct", .punct), ("space", .space), ("upper", .upper),
    ("word", .word), ("xdigit", .xdigit)]

/-- Reads a named class after its opening bracket. Anything else is no named class. -/
def readNamedClass? : List Char → Option (ClassTerm × List Char)
  | ':' :: rest =>
      let (negated, rest) := match rest with
        | '^' :: rest => (true, rest)
        | rest => (false, rest)
      match rest.dropWhile (· != ':') with
      | ':' :: ']' :: after =>
          (namedClasses.lookup (String.ofList (rest.takeWhile (· != ':')))).map fun kind =>
            (.named kind negated, after)
      | _ => none
  | _ => none

def classItemOf : Term → Except PatternFault ClassTerm
  | .literal character byte => .ok (.literal character byte)
  | .letter kind negated => .ok (.letter kind negated)
  | .property query negated => .ok (.property query negated)
  | _ => .error .classEscapeInvalid

def classRangeOf (first last : Term) : Except PatternFault ClassTerm :=
  match first, last with
  | .literal first firstByte, .literal last lastByte =>
      if first ≤ last then .ok (.range first firstByte last lastByte)
      else .error .classRangeInvalid
  | _, _ => .error .classRangeNotLiteral

/-- Reads one end of a range, which starts with a character. -/
def readClassEnd (verbose : Bool) (character : Char) (rest : List Char) : Reading Term :=
  if character == '\\' then readEscape verbose rest
  else .ok (.literal character false, rest)

/-- The rest after the hyphen of a range, if one follows. A hyphen before a closing bracket
or another hyphen makes no range. -/
def rangeHyphen? (verbose : Bool) : List Char → Option (List Char)
  | '-' :: rest =>
      match skipBlanks verbose rest with
      | ']' :: _ | '-' :: _ => none
      | after => some after
  | _ => none

def readClassItem (verbose : Bool) (character : Char) (rest : List Char) :
    Except PatternFault (ClassTerm × List Char) := do
  let (first, rest) ← readClassEnd verbose character rest
  let rest := skipBlanks verbose rest
  match rangeHyphen? verbose rest with
  | none => return (← classItemOf first, rest)
  | some [] => throw .classUnclosed
  | some (character :: rest) =>
      let (last, rest) ← readClassEnd verbose character rest
      return (← classRangeOf first last, rest)

/-- What an open bracket starts with: whether it negates, and its first items, the last one
first. -/
structure ClassOpening where
  negated : Bool
  items : List ClassTerm
  rest : List Char

def openBracket (verbose : Bool) (characters : List Char) : ClassOpening :=
  let (negated, characters) := match skipBlanks verbose characters with
    | '^' :: rest => (true, skipBlanks verbose rest)
    | characters => (false, characters)
  let (hyphens, rest) := takeWhileSkipping verbose (· == '-') characters
  let items := hyphens.map fun hyphen => ClassTerm.literal hyphen false
  match items, rest with
  | [], ']' :: rest => ⟨negated, [.literal ']' false], skipBlanks verbose rest⟩
  | items, rest => ⟨negated, items, rest⟩

/-- The items read so far as one class, joined to the operator that waits for them. -/
def closeOperand (frames : List ClassFrame) (items : List ClassTerm) :
    ClassTerm × List ClassFrame :=
  let right := ClassTerm.ofItems items.reverse
  match frames with
  | .operand operation left :: frames => (.combined operation left right, frames)
  | frames => (right, frames)

structure ClassProgress where
  frames : List ClassFrame
  /-- The items since the last bracket or operator, the last one first. -/
  items : List ClassTerm

namespace ClassProgress

def add (progress : ClassProgress) (item : ClassTerm) : ClassProgress :=
  { progress with items := item :: progress.items }

def openWith (progress : ClassProgress) (opening : ClassOpening) : ClassProgress :=
  ⟨.bracket opening.negated progress.items :: progress.frames, opening.items⟩

def operate (progress : ClassProgress) (operation : ClassOperation) : ClassProgress :=
  let (left, frames) := closeOperand progress.frames progress.items
  ⟨.operand operation left :: frames, []⟩

def start (opening : ClassOpening) : ClassProgress :=
  openWith ⟨[], []⟩ opening

end ClassProgress

inductive ClassClosing where
  | finished (negated : Bool) (body : ClassTerm)
  | continued (progress : ClassProgress)

def ClassProgress.close (progress : ClassProgress) : ClassClosing :=
  let (body, frames) := closeOperand progress.frames progress.items
  match frames with
  | .bracket negated before :: outer :: frames =>
      .continued ⟨outer :: frames, .bracketed negated body :: before⟩
  | .bracket negated _ :: [] => .finished negated body
  | _ => .finished false body

def readInnerBracket (verbose : Bool) (progress : ClassProgress) (rest : List Char) :
    ClassProgress × List Char :=
  match readNamedClass? rest with
  | some (item, rest) => (progress.add item, rest)
  | none =>
      let opening := openBracket verbose rest
      (progress.openWith opening, opening.rest)

/-- Reads to the end of a class. Every turn takes a character, so that as many turns as
there are characters are enough. -/
def readClassBody (verbose : Bool) : Nat → ClassProgress → List Char →
    Except PatternFault (Term × List Char)
  | 0, _, _ => .error .classUnclosed
  | turns + 1, progress, characters =>
      match skipBlanks verbose characters with
      | [] => .error .classUnclosed
      | '[' :: rest =>
          let (progress, rest) := readInnerBracket verbose progress rest
          readClassBody verbose turns progress rest
      | ']' :: rest =>
          match progress.close with
          | .finished negated body => .ok (.bracketed negated body, rest)
          | .continued progress => readClassBody verbose turns progress rest
      | '&' :: '&' :: rest => readClassBody verbose turns (progress.operate .intersection) rest
      | '-' :: '-' :: rest => readClassBody verbose turns (progress.operate .difference) rest
      | '~' :: '~' :: rest =>
          readClassBody verbose turns (progress.operate .symmetricDifference) rest
      | character :: rest => do
          let (item, rest) ← readClassItem verbose character rest
          readClassBody verbose turns (progress.add item) rest

def readBracketed (verbose : Bool) (characters : List Char) : Reading Term :=
  let opening := openBracket verbose characters
  readClassBody verbose (opening.rest.length + 1) (.start opening) opening.rest

end ListInvocation.Pattern
