import ListInvocation.Proofs.Wire.Spelling

/-!
Contract: the test of a count against the bytes behind it.

Owns: readers with any test in its place, the one without a test among them, and the texts
on which a test makes no difference.

Does not own: the texts that writers produce, which pass the test.
-/

namespace ListInvocation.Wire

open ListInvocation.Text ListInvocation.Decimal

/-! ## Readers with another test -/

/-- A test of a count, given the number of bytes behind it. -/
abbrev CountTest := (count room : Nat) → Bool

/-- The test that refuses counts of more elements than could be written in the room. -/
def tooMany : CountTest := fun count room => room / minElementBytes < count

/-- The test that refuses no count. -/
def trusting : CountTest := fun _ _ => false

section Readers

variable (refused : CountTest)

/-- Reads a list, and refuses its count by a test. -/
def Cursor.readListWith (cursor : Cursor) :
    Except WireError (List (List Char) × Cursor) := do
  let cursor ← expect '[' cursor
  let (count, cursor) ← readLength cursor
  if refused count (byteSize cursor.rest) then
    throw (.invalidLength cursor.offset)
  let (texts, cursor) ← readElements count cursor
  let cursor ← expect ']' cursor
  return (texts, cursor)

/-- The element texts of a text that is exactly one list with a count that is not refused. -/
def splitListWith (text : List Char) : Except WireError (List (List Char)) := do
  let (texts, cursor) ← (Cursor.start text).readListWith refused
  if cursor.rest.isEmpty then
    return texts
  else
    throw (.trailingData cursor.offset)

/-- Reads an element as a nested list when its text is one and a level is left. -/
def decodeElementWith : (levels : Nat) → (text : List Char) → Tree String
  | 0, text => .text (String.ofList text)
  | levels + 1, text =>
      match splitListWith refused text with
      | .ok texts => .list (texts.map (decodeElementWith levels))
      | .error _ => .text (String.ofList text)

/-- Reads a wire text that is exactly one list, and refuses counts by a test. -/
def decodeWith (text : String) : Except WireError (Tree String) :=
  match splitListWith refused text.toList with
  | .ok texts => .ok (.list (texts.map (decodeElementWith refused maxNesting)))
  | .error error => .error error

end Readers

theorem splitListWith_tooMany (text : List Char) :
    splitListWith tooMany text = splitList text := by
  simp only [splitListWith, Cursor.readListWith, tooMany, decide_eq_true_eq, splitList,
    Cursor.readList]

theorem decodeElementWith_tooMany (levels : Nat) (text : List Char) :
    decodeElementWith tooMany levels text = decodeElement levels text := by
  induction levels generalizing text with
  | zero => rfl
  | succ levels inductionHypothesis =>
      have same : decodeElementWith tooMany levels = decodeElement levels :=
        funext inductionHypothesis
      have sameSplit := splitListWith_tooMany text
      unfold decodeElementWith decodeElement
      cases split : splitList text with
      | ok texts => simp only [sameSplit, split, same]
      | error error => simp only [sameSplit, split]

/-- The reader of wire texts is the one with the test for too many elements. -/
theorem decodeWith_tooMany (text : String) : decodeWith tooMany text = decode text := by
  have same : decodeElementWith tooMany maxNesting = decodeElement maxNesting :=
    funext (decodeElementWith_tooMany maxNesting)
  have sameSplit := splitListWith_tooMany text.toList
  unfold decodeWith decode decodeChars decodeWithin
  cases split : splitList text.toList with
  | ok texts => simp only [sameSplit, split, same]
  | error error => simp only [sameSplit, split]

/-! ## Lists that are read -/

variable {refused : CountTest} {texts : List (List Char)} {room : Nat} {text : List Char}

/-- A list with a count that is not refused is read with all its elements. -/
theorem Spells.splitListWith_of_passed (spells : Spells texts room text)
    (passed : refused texts.length room = false) :
    splitListWith refused text = .ok texts := by
  obtain ⟨numeral, denotes, spelled⟩ := spells
  simp only [splitListWith, Cursor.start, Cursor.readListWith, bind, Except.bind,
    Cursor.expect_here, Cursor.readLength_numeral numeral, denotes, passed,
    Cursor.readElements_here spelled, pure, Except.pure, List.isEmpty_nil, Bool.false_eq_true,
    if_false, if_true]

/-- A list with a refused count is not read at all. -/
theorem Spells.splitListWith_of_refused (spells : Spells texts room text)
    (isRefused : refused texts.length room = true) :
    ∃ error, splitListWith refused text = .error error := by
  cases spells with
  | @list run _ _ numeral denotes =>
      refine ⟨.invalidLength (0 + '['.utf8Size + byteSize (run ++ [':'])), ?_⟩
      simp only [splitListWith, Cursor.start, Cursor.readListWith, bind, Except.bind,
        Cursor.expect_here, Cursor.readLength_numeral numeral, denotes, isRefused, if_true]
      rfl

/-- A list that is read stands in front of what is left, whatever its count was tested for. -/
theorem list_of_readListWith {cursor next : Cursor}
    (read : cursor.readListWith refused = .ok (texts, next)) :
    ∃ run body, Numeral run ∧ ofDigits run = texts.length ∧ Elements texts body ∧
      cursor.rest = '[' :: (run ++ ':' :: (body ++ ']' :: next.rest)) := by
  unfold Cursor.readListWith at read
  obtain ⟨behindBracket, bracketPassed, read⟩ := steps_of_bind_eq_ok read
  obtain ⟨⟨count, behindCount⟩, countRead, read⟩ := steps_of_bind_eq_ok read
  simp only at read
  split at read
  next => contradiction
  next =>
    obtain ⟨⟨readTexts, behindElements⟩, elementsRead, read⟩ := steps_of_bind_eq_ok read
    obtain ⟨behindList, closed, read⟩ := steps_of_bind_eq_ok read
    cases read
    obtain ⟨run, numeral, denotes, atCount⟩ := Cursor.numeral_of_readLength countRead
    obtain ⟨body, spelled, number, atElements⟩ := Cursor.elements_of_readElements elementsRead
    refine ⟨run, body, numeral, denotes.trans number.symm, spelled, ?_⟩
    rw [Cursor.rest_of_expect bracketPassed, atCount, atElements, Cursor.rest_of_expect closed]

/-- Only lists are read. -/
theorem spells_of_splitListWith (read : splitListWith refused text = .ok texts) :
    ∃ room, Spells texts room text := by
  unfold splitListWith at read
  obtain ⟨⟨readTexts, behindList⟩, listRead, read⟩ := steps_of_bind_eq_ok read
  simp only at read
  split at read
  next ended =>
    cases read
    obtain ⟨run, body, numeral, denotes, spelled, shape⟩ := list_of_readListWith listRead
    rw [List.isEmpty_iff.mp ended] at shape
    have textEq : text = '[' :: (run ++ ':' :: (body ++ [']'])) := shape
    rw [textEq]
    exact ⟨_, .list numeral denotes spelled⟩
  next => contradiction

/-! ## Texts on which a test makes no difference -/

/-- No list in a text has a refused count, down to the deepest level that is read. -/
def Unrefused (refused : CountTest) : (levels : Nat) → (text : List Char) → Prop
  | 0, _ => True
  | levels + 1, text =>
      ∀ texts room, Spells texts room text →
        refused texts.length room = false ∧ ∀ element ∈ texts, Unrefused refused levels element

/-- A list whose own count passes is free of refused counts when its elements are. -/
theorem Spells.unrefused_iff {levels : Nat} (spells : Spells texts room text)
    (passed : refused texts.length room = false) :
    Unrefused refused (levels + 1) text ↔
      ∀ element ∈ texts, Unrefused refused levels element := by
  constructor
  · intro unrefused
    exact (unrefused texts room spells).2
  · intro elements others otherRoom otherSpells
    -- A text might spell a list in two ways; reading it shows that both have the same texts.
    have read := spells.splitListWith_of_passed passed
    cases refusal : refused others.length otherRoom with
    | true =>
        obtain ⟨error, notRead⟩ := otherSpells.splitListWith_of_refused refusal
        rw [read] at notRead
        contradiction
    | false =>
        have readToo := otherSpells.splitListWith_of_passed refusal
        rw [read] at readToo
        exact ⟨rfl, Except.ok.inj readToo ▸ elements⟩

/-- A text is no list, or a list that passes a test, or one that does not. -/
theorem spells_cases (refused : CountTest) (text : List Char) :
    (∀ texts room, ¬ Spells texts room text) ∨
      (∃ texts room, Spells texts room text ∧ refused texts.length room = false) ∨
      ∃ texts room, Spells texts room text ∧ refused texts.length room = true := by
  by_cases list : ∃ texts room, Spells texts room text
  · obtain ⟨texts, room, spells⟩ := list
    cases refusal : refused texts.length room with
    | false => exact .inr (.inl ⟨texts, room, spells, refusal⟩)
    | true => exact .inr (.inr ⟨texts, room, spells, refusal⟩)
  · exact .inl fun texts room spells => list ⟨texts, room, spells⟩

/-- A text that is no list is not read by any reader. -/
theorem splitListWith_of_not_spells (noList : ∀ texts room, ¬ Spells texts room text)
    (refused : CountTest) : ∃ error, splitListWith refused text = .error error := by
  cases read : splitListWith refused text with
  | error error => exact ⟨error, rfl⟩
  | ok texts =>
      obtain ⟨room, spells⟩ := spells_of_splitListWith read
      exact absurd spells (noList texts room)

/-- A test changes the tree of an element exactly by refusing a list in it. -/
theorem decodeElementWith_eq_iff (refused : CountTest) (levels : Nat) (text : List Char) :
    decodeElementWith refused levels text = decodeElementWith trusting levels text ↔
      Unrefused refused levels text := by
  induction levels generalizing text with
  | zero => exact iff_of_true rfl trivial
  | succ levels inductionHypothesis =>
      -- Without a list both readers leave a leaf; a passed list differs in its elements
      -- only; a refused one is a leaf for one reader and a list for the other.
      obtain noList | ⟨texts, room, spells, passed⟩ | ⟨texts, room, spells, isRefused⟩ :=
        spells_cases refused text
      · obtain ⟨error, notRead⟩ := splitListWith_of_not_spells noList refused
        obtain ⟨otherError, notReadEither⟩ := splitListWith_of_not_spells noList trusting
        rw [decodeElementWith, notRead, decodeElementWith, notReadEither]
        exact iff_of_true rfl fun texts room spells => absurd spells (noList texts room)
      · rw [decodeElementWith, spells.splitListWith_of_passed passed, decodeElementWith,
          spells.splitListWith_of_passed rfl, spells.unrefused_iff passed]
        simp only [Tree.list, Tree.node.injEq, true_and, List.map_inj_left, inductionHypothesis]
      · obtain ⟨error, notRead⟩ := spells.splitListWith_of_refused isRefused
        rw [decodeElementWith, notRead, decodeElementWith, spells.splitListWith_of_passed rfl]
        refine iff_of_false (fun same => ?_) fun unrefused => ?_
        · contradiction
        · rw [(unrefused texts room spells).1] at isRefused
          contradiction

/-- A text that is read is the element with that text, when it comes out as a list. -/
theorem toOption_decodeWith (refused : CountTest) (text : String) :
    (decodeWith refused text).toOption =
      (some (decodeElementWith refused (maxNesting + 1) text.toList)).filter Tree.isList := by
  rw [decodeWith, decodeElementWith]
  cases splitListWith refused text.toList with
  | ok texts => rfl
  | error error => rfl

theorem decodeElementWith_eq_getD (refused : CountTest) (text : String) :
    decodeElementWith refused (maxNesting + 1) text.toList =
      (decodeWith refused text).toOption.getD (.text text) := by
  rw [decodeWith, decodeElementWith]
  cases splitListWith refused text.toList with
  | ok texts => rfl
  | error error => exact congrArg Tree.text (String.ofList_toList)

/-- Readers with and without a test both fail, or both succeed with the same tree, exactly
on the texts without refused counts. -/
theorem toOption_decodeWith_eq_iff (refused : CountTest) (text : String) :
    (decodeWith refused text).toOption = (decodeWith trusting text).toOption ↔
      Unrefused refused (maxNesting + 1) text.toList := by
  rw [← decodeElementWith_eq_iff]
  constructor
  · intro same
    rw [decodeElementWith_eq_getD, decodeElementWith_eq_getD, same]
  · intro same
    rw [toOption_decodeWith, toOption_decodeWith, same]

theorem Spells.decodeWith_of_passed {source : String} (spells : Spells texts room source.toList)
    (passed : refused texts.length room = false) :
    decodeWith refused source =
      .ok (.list (texts.map (decodeElementWith refused maxNesting))) := by
  rw [decodeWith, spells.splitListWith_of_passed passed]

/-- Whether a list is read turns on its own count alone. -/
theorem Spells.exists_decodeWith_iff {source : String} (spells : Spells texts room source.toList) :
    (∃ tree, decodeWith refused source = .ok tree) ↔ refused texts.length room = false := by
  cases refusal : refused texts.length room with
  | false => exact iff_of_true ⟨_, spells.decodeWith_of_passed refusal⟩ rfl
  | true =>
      obtain ⟨error, notRead⟩ := spells.splitListWith_of_refused refusal
      refine iff_of_false ?_ Bool.noConfusion
      rintro ⟨tree, read⟩
      rw [decodeWith, notRead] at read
      contradiction

/-- The test for too many elements changes what is read exactly where a count, at any level,
asks for more elements than could be written in the room behind it; and of the texts that
are lists, those are read whose elements could have been written with six digits each. -/
theorem decode_agrees_iff (text : String) :
    ((decode text).toOption = (decodeWith trusting text).toOption ↔
      Unrefused tooMany (maxNesting + 1) text.toList) ∧
    ∀ texts room, Spells texts room text.toList →
      ((∃ tree, decode text = .ok tree) ↔ minElementBytes * texts.length ≤ room) := by
  rw [← decodeWith_tooMany]
  refine ⟨toOption_decodeWith_eq_iff tooMany text, fun texts room spells => ?_⟩
  rw [spells.exists_decodeWith_iff, tooMany, decide_eq_false_iff_not, Nat.not_lt,
    Nat.le_div_iff_mul_le (by decide), Nat.mul_comm]

/-- A list of one element with short lengths is refused, although its form is that of a list
and it is read without the test. Inside another list it turns into a leaf. -/
theorem decode_refuses_shortLengths :
    Spells [['a']] 5 "[1:1:a:]".toList ∧
      decode "[1:1:a:]" = .error (.invalidLength 3) ∧
      decodeWith trusting "[1:1:a:]" = .ok (.list [.text "a"]) ∧
      decode "[000001:000008:[1:1:a:]:]" = .ok (.list [.text "[1:1:a:]"]) ∧
      decodeWith trusting "[000001:000008:[1:1:a:]:]" = .ok (.list [.list [.text "a"]]) := by
  have digit : Numeral ['1'] := ⟨by decide, by decide, List.all_eq_true.mp rfl⟩
  have inner : Spells [['a']] 5 "[1:1:a:]".toList :=
    .list digit rfl (.cons digit rfl .nil)
  have one : Numeral ['0', '0', '0', '0', '0', '1'] :=
    ⟨by decide, by decide, List.all_eq_true.mp rfl⟩
  have eight : Numeral ['0', '0', '0', '0', '0', '8'] :=
    ⟨by decide, by decide, List.all_eq_true.mp rfl⟩
  have outer : Spells ["[1:1:a:]".toList] 17 "[000001:000008:[1:1:a:]:]".toList :=
    .list one rfl (.cons eight rfl .nil)
  have leaf : decodeElementWith trusting 63 ['a'] = .text "a" := rfl
  have list : decodeElementWith trusting 64 "[1:1:a:]".toList = .list [.text "a"] := by
    rw [decodeElementWith, inner.splitListWith_of_passed rfl]
    simp only [List.map_cons, leaf, List.map_nil]
  have refusedInner : decodeElementWith tooMany 64 "[1:1:a:]".toList = .text "[1:1:a:]" := by
    have isRefused : tooMany [['a']].length 5 = true := rfl
    obtain ⟨error, notRead⟩ := inner.splitListWith_of_refused isRefused
    rw [decodeElementWith, notRead]
    rfl
  refine ⟨inner, rfl, inner.decodeWith_of_passed rfl, ?_, ?_⟩
  · rw [← decodeWith_tooMany, outer.decodeWith_of_passed rfl, maxNesting, List.map_cons,
      refusedInner, List.map_nil]
  · rw [outer.decodeWith_of_passed rfl, maxNesting, List.map_cons, list, List.map_nil]

/-! ## A test that makes no difference -/

/-- The number of bytes of the shortest element that is read. -/
def minReadElementBytes : Nat := 3

/-- The test that refuses counts of more elements than could be read in the room. -/
def tooManyToRead : CountTest := fun count room => room / minReadElementBytes < count

theorem Elements.length_le {body : List Char} (spelled : Elements texts body) :
    minReadElementBytes * texts.length ≤ byteSize body := by
  induction spelled with
  | nil => exact Nat.zero_le _
  | cons numeral _ _ inductionHypothesis =>
      have positive := numeral.positive
      have colon : (':' : Char).utf8Size = 1 := rfl
      simp only [List.length_cons, byteSize_append, byteSize_cons, numeral.byteSize_eq, colon]
      unfold minReadElementBytes at inductionHypothesis ⊢
      omega

theorem Spells.not_tooManyToRead (spells : Spells texts room text) :
    tooManyToRead texts.length room = false := by
  obtain ⟨-, -, spelled⟩ := spells
  have fits := spelled.length_le
  rw [tooManyToRead, decide_eq_false_iff_not, Nat.not_lt, Nat.le_div_iff_mul_le (by decide),
    Nat.mul_comm, byteSize_append]
  exact Nat.le_add_right_of_le fits

theorem unrefused_tooManyToRead (levels : Nat) (text : List Char) :
    Unrefused tooManyToRead levels text := by
  induction levels generalizing text with
  | zero => trivial
  | succ levels inductionHypothesis =>
      exact fun texts room spells =>
        ⟨spells.not_tooManyToRead, fun element _ => inductionHypothesis element⟩

/-- With the bound of the shortest element that is read, the test changes nothing. -/
theorem toOption_decodeWith_tooManyToRead (text : String) :
    (decodeWith tooManyToRead text).toOption = (decodeWith trusting text).toOption :=
  (toOption_decodeWith_eq_iff tooManyToRead text).mpr
    (unrefused_tooManyToRead (maxNesting + 1) text.toList)

end ListInvocation.Wire
