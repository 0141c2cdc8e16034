import ListInvocation.Proofs.Wire.Counts
import ListInvocation.Proofs.Wire.Decoded

/-!
Contract: the one way in which a text is a list.

A layout is a list as it stands in a text: the digits of its count, and for each element the
digits of its length and its text.

Owns: layouts and their texts, the fact that a text has at most one layout, the layout of a
text that is read, and what becomes of such a text when it is made longer or shorter.

Does not own: which layout a writer chooses, or the lists inside elements.
-/

namespace ListInvocation.Wire

open ListInvocation.Text ListInvocation.Decimal

/-! ## Layouts -/

/-- An element as it stands in a list: the digits of its length, and its text. -/
structure Layout.Element where
  run : List Char
  text : List Char

/-- A list as it stands in a text: the digits of its count, and its elements. -/
structure Layout where
  run : List Char
  elements : List Layout.Element

/-- A run of digits, of any length, that denotes a number. -/
structure Denotes (run : List Char) (number : Nat) : Prop where
  digits : ∀ character ∈ run, isDigit character = true
  value : ofDigits run = number

namespace Layout

def Element.chars (element : Element) : List Char :=
  element.run ++ ':' :: (element.text ++ [':'])

def chars (layout : Layout) : List Char :=
  '[' :: (layout.run ++ ':' :: (layout.elements.flatMap Element.chars ++ [']']))

def texts (layout : Layout) : List (List Char) :=
  layout.elements.map Element.text

/-- The count denotes the number of elements, and each length the bytes of its text. -/
structure Sound (layout : Layout) : Prop where
  count : Denotes layout.run layout.elements.length
  lengths : ∀ element ∈ layout.elements, Denotes element.run (byteSize element.text)

/-- A sound layout whose runs of digits are neither empty nor too long to be read. -/
structure WellFormed (layout : Layout) : Prop extends layout.Sound where
  numeral : Numeral layout.run
  numerals : ∀ element ∈ layout.elements, Numeral element.run

theorem Element.chars_append (element : Element) (rest : List Char) :
    element.chars ++ rest = element.run ++ ':' :: (element.text ++ ':' :: rest) := by
  simp [Element.chars]

end Layout

/-! ## At most one layout -/

/-- A run of digits ends at the first colon. -/
theorem Denotes.append_colon_inj {left right leftRest rightRest : List Char}
    {leftNumber rightNumber : Nat} (leftDenotes : Denotes left leftNumber)
    (rightDenotes : Denotes right rightNumber)
    (same : left ++ ':' :: leftRest = right ++ ':' :: rightRest) :
    left = right ∧ leftNumber = rightNumber ∧ leftRest = rightRest := by
  have sameRun : left = right := by
    rw [← takeWhile_isDigit leftDenotes.digits leftRest, same,
      takeWhile_isDigit rightDenotes.digits]
  subst sameRun
  have sameRest := (List.cons.inj (List.append_cancel_left same)).2
  exact ⟨rfl, leftDenotes.value.symm.trans rightDenotes.value, sameRest⟩

namespace Layout

/-- As many elements with the same characters are the same: each length tells where its text
ends, whatever stands in the text. -/
theorem elements_unique {left right : List Element}
    (leftDenotes : ∀ element ∈ left, Denotes element.run (byteSize element.text))
    (rightDenotes : ∀ element ∈ right, Denotes element.run (byteSize element.text))
    (sameNumber : left.length = right.length)
    (sameChars : left.flatMap Element.chars = right.flatMap Element.chars) : left = right := by
  induction left generalizing right with
  | nil => exact (List.length_eq_zero_iff.mp sameNumber.symm).symm
  | cons first left inductionHypothesis =>
      cases right with
      | nil => contradiction
      | cons second right =>
          rw [List.forall_mem_cons] at leftDenotes rightDenotes
          rw [List.flatMap_cons, List.flatMap_cons, Element.chars_append,
            Element.chars_append] at sameChars
          obtain ⟨sameRun, sameSize, sameBehind⟩ :=
            leftDenotes.1.append_colon_inj rightDenotes.1 sameChars
          obtain ⟨sameText, sameRest⟩ := append_inj_of_byteSize sameSize sameBehind
          have sameElement : first = second := by
            cases first
            cases second
            rw [Element.mk.injEq]
            exact ⟨sameRun, sameText⟩
          have sameElements := inductionHypothesis leftDenotes.2 rightDenotes.2
            (Nat.succ.inj sameNumber) (List.cons.inj sameRest).2
          rw [sameElement, sameElements]

/-- A text has one layout at most. -/
theorem Sound.unique {left right : Layout} (leftSound : left.Sound) (rightSound : right.Sound)
    (same : left.chars = right.chars) : left = right := by
  obtain ⟨sameRun, sameNumber, sameBody⟩ :=
    leftSound.count.append_colon_inj rightSound.count (List.cons.inj same).2
  have sameElements := elements_unique leftSound.lengths rightSound.lengths sameNumber
    (List.append_cancel_right sameBody)
  cases left
  cases right
  rw [Layout.mk.injEq]
  exact ⟨sameRun, sameElements⟩

end Layout

/-! ## The layout of a text that is read -/

/-- Elements that are spelled one after another have a layout. -/
theorem Elements.exists_layout {texts : List (List Char)} {body : List Char}
    (spelled : Elements texts body) :
    ∃ elements : List Layout.Element,
      elements.map Layout.Element.text = texts ∧ elements.flatMap Layout.Element.chars = body ∧
      (∀ element ∈ elements, Numeral element.run) ∧
      ∀ element ∈ elements, Denotes element.run (byteSize element.text) := by
  induction spelled with
  | nil => exact ⟨[], rfl, rfl, nofun, nofun⟩
  | @cons run text body texts numeral denotes spelled inductionHypothesis =>
      obtain ⟨elements, sameTexts, sameBody, numerals, lengths⟩ := inductionHypothesis
      refine ⟨⟨run, text⟩ :: elements, ?_, ?_, ?_, ?_⟩
      · rw [List.map_cons, sameTexts]
      · rw [List.flatMap_cons, sameBody, Layout.Element.chars_append]
      · exact List.forall_mem_cons.mpr ⟨numeral, numerals⟩
      · exact List.forall_mem_cons.mpr ⟨⟨numeral.digits, denotes⟩, lengths⟩

/-- A text that is read is a list, and its elements could have been written in its room. -/
theorem spells_of_splitList {text : List Char} {texts : List (List Char)}
    (read : splitList text = .ok texts) :
    ∃ room, Spells texts room text ∧ texts.length ≤ room / minElementBytes := by
  rw [← splitListWith_tooMany] at read
  obtain ⟨room, spells⟩ := spells_of_splitListWith read
  refine ⟨room, spells, Nat.le_of_not_lt fun crowded => ?_⟩
  have isRefused : tooMany texts.length room = true := decide_eq_true crowded
  obtain ⟨error, notRead⟩ := spells.splitListWith_of_refused isRefused
  rw [read] at notRead
  contradiction

/-- A text that is read has a layout with the texts that it is read as. -/
theorem exists_layout_of_splitList {text : List Char} {texts : List (List Char)}
    (read : splitList text = .ok texts) :
    ∃ layout : Layout, layout.WellFormed ∧ layout.chars = text ∧ layout.texts = texts := by
  obtain ⟨room, spells, -⟩ := spells_of_splitList read
  obtain ⟨numeral, denotes, spelled⟩ := spells
  obtain ⟨elements, sameTexts, sameBody, numerals, lengths⟩ := spelled.exists_layout
  have sameNumber : elements.length = texts.length := by
    rw [← sameTexts, List.length_map]
  refine ⟨⟨_, elements⟩, ?_, by rw [Layout.chars, sameBody], sameTexts⟩
  exact ⟨⟨⟨numeral.digits, denotes.trans sameNumber.symm⟩, lengths⟩, numeral, numerals⟩

/-! ## Longer and shorter texts -/

/-- Behind a list that is read nothing may stand: its elements fit the longer text too. -/
theorem splitList_append_of_ok {text rest : List Char} {texts : List (List Char)}
    (read : splitList text = .ok texts) (more : rest ≠ []) :
    splitList (text ++ rest) = .error (.trailingData (byteSize text)) := by
  obtain ⟨room, spells, fits⟩ := spells_of_splitList read
  cases spells with
  | @list run body _ numeral denotes spelled =>
      have shape : '[' :: (run ++ ':' :: (body ++ [']'])) ++ rest =
          '[' :: (run ++ ':' :: (body ++ ']' :: rest)) := by
        simp
      rw [shape]
      refine splitList_of_trailing numeral denotes spelled (Nat.le_trans fits ?_) more
      refine Nat.div_le_div_right ?_
      simp only [byteSize_append, byteSize_cons, byteSize_nil]
      omega

theorem decode_append_of_ok {text suffix : String} {tree : Tree String}
    (decoded : decode text = .ok tree) (more : suffix ≠ "") :
    decode (text ++ suffix) = .error (.trailingData text.utf8ByteSize) := by
  obtain ⟨texts, read, -⟩ := list_of_decode decoded
  have nonempty : suffix.toList ≠ [] := fun empty => more (String.toList_eq_nil_iff.mp empty)
  rw [decode_eq_error_iff, String.toList_append, splitList_append_of_ok read nonempty,
    byteSize_toList]

/-- A text that is read has exactly one layout, and its tree is the list of the elements of
that layout, each read by itself. Nothing may follow such a text, and no part of it that stops
short of its end is read. -/
theorem decode_oneReading {text : String} {tree : Tree String} (decoded : decode text = .ok tree) :
    (∃ layout : Layout, layout.WellFormed ∧ layout.chars = text.toList ∧
      tree = .list (layout.texts.map (decodeElement maxNesting)) ∧
      ∀ other : Layout, other.Sound → other.chars = text.toList → other = layout) ∧
    (∀ suffix : String, suffix ≠ "" →
      decode (text ++ suffix) = .error (.trailingData text.utf8ByteSize)) ∧
    ∀ front rest : String, rest ≠ "" → text = front ++ rest →
      ∃ error, decode front = .error error := by
  refine ⟨?_, fun suffix more => decode_append_of_ok decoded more, ?_⟩
  · obtain ⟨texts, read, shape⟩ := list_of_decode decoded
    obtain ⟨layout, wellFormed, sameChars, sameTexts⟩ := exists_layout_of_splitList read
    refine ⟨layout, wellFormed, sameChars, by rw [sameTexts, shape], ?_⟩
    intro other sound otherChars
    exact sound.unique wellFormed.toSound (otherChars.trans sameChars.symm)
  · intro front rest more split
    cases frontRead : decode front with
    | error error => exact ⟨error, rfl⟩
    | ok frontTree =>
        -- Had the front been read, the rest would trail behind it.
        have trailing := decode_append_of_ok frontRead more
        rw [← split, decoded] at trailing
        contradiction

/-- A list with short runs of digits, whose elements hold a list and two bytes. -/
def looseText : String := "[2:000009:[000000:]:02:é:]"

theorem decode_looseText : decode looseText = .ok (.list [.list [], .text "é"]) :=
  decode_of_toOption (by decide +kernel)

theorem decode_oneReading_looseText :
    decode looseText = .ok (.list [.list [], .text "é"]) ∧
      (∃ layout : Layout, layout.WellFormed ∧ layout.chars = looseText.toList) ∧
      decode (looseText ++ "]") = .error (.trailingData 27) ∧
      ∃ error, decode "[2:000009:[000000:]:02:é:" = .error error := by
  obtain ⟨⟨layout, wellFormed, sameChars, -⟩, longer, shorter⟩ :=
    decode_oneReading decode_looseText
  exact ⟨decode_looseText, ⟨layout, wellFormed, sameChars⟩, longer "]" (by decide),
    shorter _ "]" (by decide) rfl⟩

end ListInvocation.Wire
