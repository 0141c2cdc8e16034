import ListInvocation.Proofs.Wire.Decoded

/-!
Contract: what the nesting limit changes in the tree of a text.

Two readers of one text have different numbers of levels left when it stands at different
depths: a list that stands `depth` levels below the root is read with `maxNesting - depth`
levels. Both see the same list, or the same failure.

Owns: how the trees of two such readers can differ, and that they differ in no other way.

Does not own: how the trees are written.
-/

namespace ListInvocation.Wire

/-- The trees of one element for two readers that have these numbers of levels left. They
differ where the element is a list and only one of the readers has a level left for it: the
other one keeps the text, and the text is read as the list by the levels behind it. -/
inductive ApartAtLimit : (left right : Nat) → Tree String → Tree String → Prop where
  /-- A text that is no list is a leaf for both. -/
  | text {left right : Nat} {value : String} {error : WireError} :
      decode value = .error error → ApartAtLimit left right (.text value) (.text value)
  /-- Past both limits every text is a leaf. -/
  | past {value : String} : ApartAtLimit 0 0 (.text value) (.text value)
  /-- A list within both limits has the same elements for both. -/
  | list {left right : Nat} {lefts rights : List (Tree String)} :
      lefts.length = rights.length →
      (∀ pair ∈ lefts.zip rights, ApartAtLimit left right pair.1 pair.2) →
      ApartAtLimit (left + 1) (right + 1) (.list lefts) (.list rights)
  /-- A list past the first limit only. -/
  | pastLeft {right : Nat} {value : String} {tree : Tree String} :
      decodeWithin right value.toList = .ok tree →
      ApartAtLimit 0 (right + 1) (.text value) tree
  /-- A list past the second limit only. -/
  | pastRight {left : Nat} {value : String} {tree : Tree String} :
      decodeWithin left value.toList = .ok tree →
      ApartAtLimit (left + 1) 0 tree (.text value)

/-! ## One reader -/

theorem decodeWithin_of_ok {text : List Char} {texts : List (List Char)}
    (split : splitList text = .ok texts) (levels : Nat) :
    decodeWithin levels text = .ok (.list (texts.map (decodeElement levels))) := by
  rw [decodeWithin, split]

theorem decodeWithin_of_error {text : List Char} {error : WireError}
    (split : splitList text = .error error) (levels : Nat) :
    decodeWithin levels text = .error error := by
  rw [decodeWithin, split]

theorem decodeElement_of_ok {text : List Char} {texts : List (List Char)}
    (split : splitList text = .ok texts) (levels : Nat) :
    decodeElement (levels + 1) text = .list (texts.map (decodeElement levels)) := by
  rw [decodeElement, split]

/-- Whether a level is left or not, a text that is no list stays a leaf. -/
theorem decodeElement_of_error {text : List Char} {error : WireError}
    (split : splitList text = .error error) (levels : Nat) :
    decodeElement levels text = .text (String.ofList text) := by
  cases levels with
  | zero => rfl
  | succ levels => rw [decodeElement, split]

/-! ## Two readers -/

theorem apartAtLimit_of_error {text : List Char} {error : WireError}
    (split : splitList text = .error error) (left right : Nat) :
    ApartAtLimit left right (decodeElement left text) (decodeElement right text) := by
  rw [decodeElement_of_error split, decodeElement_of_error split]
  apply ApartAtLimit.text
  rw [decode_eq_error_iff, String.toList_ofList]
  exact split

/-- Readers that are apart on each element are apart on the elements in their order. -/
theorem apartAtLimit_of_mem_zip {left right : Nat} {texts : List (List Char)}
    (each : ∀ text ∈ texts,
      ApartAtLimit left right (decodeElement left text) (decodeElement right text)) :
    ∀ pair ∈ (texts.map (decodeElement left)).zip (texts.map (decodeElement right)),
      ApartAtLimit left right pair.1 pair.2 := by
  intro pair member
  rw [List.zip_map'] at member
  obtain ⟨text, isElement, same⟩ := List.mem_map.mp member
  rw [← same]
  exact each text isElement

/-- The induction is on the levels of the first reader; either reader may run out first. -/
theorem apartAtLimit_decodeElement (left right : Nat) (text : List Char) :
    ApartAtLimit left right (decodeElement left text) (decodeElement right text) := by
  induction left generalizing right text with
  | zero =>
      cases split : splitList text with
      | error error => exact apartAtLimit_of_error split 0 right
      | ok texts =>
          cases right with
          | zero => exact .past
          | succ right =>
              apply ApartAtLimit.pastLeft
              rw [String.toList_ofList, decodeElement_of_ok split, decodeWithin_of_ok split]
  | succ left inductionHypothesis =>
      cases split : splitList text with
      | error error => exact apartAtLimit_of_error split (left + 1) right
      | ok texts =>
          cases right with
          | zero =>
              apply ApartAtLimit.pastRight
              rw [String.toList_ofList, decodeElement_of_ok split, decodeWithin_of_ok split]
          | succ right =>
              rw [decodeElement_of_ok split, decodeElement_of_ok split]
              apply ApartAtLimit.list
              · rw [List.length_map, List.length_map]
              · exact apartAtLimit_of_mem_zip fun text _ => inductionHypothesis right text

/-- With any two numbers of levels a text is refused for the same reason, or read as lists of
the same number of elements, which are apart only by texts that are lists past the limit of
one reader. -/
theorem decodeWithin_apart (left right : Nat) (text : List Char) :
    (∃ error, decodeWithin left text = .error error ∧ decodeWithin right text = .error error) ∨
      ∃ lefts rights, decodeWithin left text = .ok (.list lefts) ∧
        decodeWithin right text = .ok (.list rights) ∧ lefts.length = rights.length ∧
        ∀ pair ∈ lefts.zip rights, ApartAtLimit left right pair.1 pair.2 := by
  cases split : splitList text with
  | error error =>
      left
      exact ⟨error, decodeWithin_of_error split _, decodeWithin_of_error split _⟩
  | ok texts =>
      right
      refine ⟨_, _, decodeWithin_of_ok split _, decodeWithin_of_ok split _, ?_, ?_⟩
      · rw [List.length_map, List.length_map]
      · exact apartAtLimit_of_mem_zip fun text _ => apartAtLimit_decodeElement left right text

/-- The inner list is past the limit of a reader without levels. -/
example :
    decodeWithin 0 "[000001:000009:[000000:]:]".toList = .ok (.list [.text "[000000:]"]) ∧
      decodeWithin 1 "[000001:000009:[000000:]:]".toList = .ok (.list [.list []]) := by
  constructor <;> cbv

end ListInvocation.Wire
