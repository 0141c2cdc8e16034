import ListInvocation.Proofs.Wire.Layout

/-!
Contract: the trees that are read, and which texts are written for them.

Owns: the positions of leaves and lists in a tree that was read, the written layout, the
lists in a text that become nodes, and the texts that come back when their trees are
written.

Does not own: trees that are built in another way.
-/

namespace ListInvocation.Wire

open ListInvocation.Text ListInvocation.Decimal

/-! ## Trees that are read -/

/-- Whatever an element holds, it brings back a tree that it carries. -/
theorem carried_decodeElement (levels : Nat) (text : List Char) :
    Carried levels (decodeElement levels text) := by
  induction levels generalizing text with
  | zero => exact True.intro
  | succ levels inductionHypothesis =>
      cases read : decodeElement (levels + 1) text with
      | leaf value => exact leaf_of_decodeElement read
      | node value branches =>
          unfold decodeElement at read
          split at read
          next texts _ =>
            cases read
            refine ⟨rfl, fun branch member => ?_⟩
            obtain ⟨element, _, same⟩ := List.mem_map.mp member
            exact same ▸ inductionHypothesis element
          next => contradiction

theorem carried_of_decode {text : String} {tree : Tree String} (decoded : decode text = .ok tree) :
    Carried (maxNesting + 1) tree := by
  obtain ⟨texts, -, shape⟩ := list_of_decode decoded
  subst shape
  refine ⟨rfl, fun branch member => ?_⟩
  obtain ⟨element, -, same⟩ := List.mem_map.mp member
  exact same ▸ carried_decodeElement maxNesting element

/-! ## The written layout -/

namespace Layout

/-- Every number is written with six digits, or with as many as it takes if these are more. -/
structure Padded (layout : Layout) : Prop where
  count : layout.run = paddedDigits lengthWidth layout.elements.length
  lengths : ∀ element ∈ layout.elements,
    element.run = paddedDigits lengthWidth (byteSize element.text)

def Element.written (text : List Char) : Element :=
  ⟨paddedDigits lengthWidth (byteSize text), text⟩

def written (texts : List (List Char)) : Layout :=
  ⟨paddedDigits lengthWidth texts.length, texts.map Element.written⟩

theorem denotes_paddedDigits (number : Nat) :
    Denotes (paddedDigits lengthWidth number) number :=
  ⟨fun _ => isDigit_of_mem_paddedDigits, ofDigits_paddedDigits lengthWidth number⟩

theorem sound_written (texts : List (List Char)) : (written texts).Sound := by
  constructor
  · rw [written, List.length_map]
    exact denotes_paddedDigits texts.length
  · intro element member
    obtain ⟨text, -, same⟩ := List.mem_map.mp member
    exact same ▸ denotes_paddedDigits (byteSize text)

theorem padded_written (texts : List (List Char)) : (written texts).Padded := by
  constructor
  · rw [written, List.length_map]
  · intro element member
    obtain ⟨text, -, same⟩ := List.mem_map.mp member
    exact same ▸ rfl

theorem texts_written (texts : List (List Char)) : (written texts).texts = texts := by
  rw [Layout.texts, written, List.map_map]
  exact List.map_id texts

theorem chars_written (texts : List (List Char)) :
    (written texts).chars = encodeElements texts := by
  have element : Element.chars ∘ Element.written = encodeElement := by
    funext text
    simp [Element.chars, Element.written, encodeElement, encodeLength]
  rw [encodeElements_eq, chars, written, List.flatMap_map]
  exact congrArg (fun body => '[' :: (_ ++ ':' :: (List.flatMap body texts ++ [']']))) element

theorem Padded.eq_written {layout : Layout} (padded : layout.Padded) :
    layout = written layout.texts := by
  have elements : layout.elements = layout.texts.map Element.written := by
    rw [texts, List.map_map]
    refine (List.map_id layout.elements).symm.trans (List.map_congr_left fun element member => ?_)
    cases element
    exact congrArg (Element.mk · _) (padded.lengths _ member)
  have run := padded.count
  cases layout
  rw [written, texts, List.length_map, Layout.mk.injEq]
  exact ⟨run, elements⟩

/-- A list has a written text exactly when its own layout is the written one. -/
theorem Sound.chars_eq_encodeElements_iff {layout : Layout} (sound : layout.Sound)
    (texts : List (List Char)) :
    layout.chars = encodeElements texts ↔ layout.Padded ∧ layout.texts = texts := by
  rw [← chars_written]
  constructor
  · intro same
    rw [sound.unique (sound_written texts) same]
    exact ⟨padded_written texts, texts_written texts⟩
  · rintro ⟨padded, sameTexts⟩
    rw [padded.eq_written, sameTexts]

end Layout

/-! ## Lists that become nodes -/

/-- A text becomes a list node, and has a layout. -/
structure Opens (levels : Nat) (text : List Char) (layout : Layout) : Prop where
  sound : layout.Sound
  chars : layout.chars = text
  isNode : (decodeElement levels text).isList = true

/-- The layouts of the lists in an element that become nodes: its own, and those in its
elements. -/
inductive Opened : (levels : Nat) → (text : List Char) → (layout : Layout) → Prop where
  | whole {levels : Nat} {text : List Char} {layout : Layout} :
      Opens levels text layout → Opened levels text layout
  | nested {levels : Nat} {text : List Char} {outer inner : Layout} {element : Layout.Element} :
      Opens (levels + 1) text outer → element ∈ outer.elements →
      Opened levels element.text inner → Opened (levels + 1) text inner

theorem not_opened_of_leaf {levels : Nat} {text : List Char} {value : String}
    (leaf : decodeElement levels text = .text value) (layout : Layout) :
    ¬ Opened levels text layout := by
  intro opened
  have isNode : (decodeElement levels text).isList = true := by
    cases opened with
    | whole opens => exact opens.isNode
    | nested opens _ _ => exact opens.isNode
  rw [leaf] at isNode
  contradiction

/-- While a level is left, an element stays a leaf with its own text, or becomes a list of the
elements of its layout. -/
theorem decodeElement_cases (levels : Nat) (text : List Char) :
    decodeElement (levels + 1) text = .text (String.ofList text) ∨
      ∃ layout, Opens (levels + 1) text layout ∧
        decodeElement (levels + 1) text = .list (layout.texts.map (decodeElement levels)) := by
  cases read : splitList text with
  | error error =>
      left
      rw [decodeElement, read]
  | ok texts =>
      obtain ⟨layout, wellFormed, sameChars, sameTexts⟩ := exists_layout_of_splitList read
      have shape : decodeElement (levels + 1) text =
          .list (layout.texts.map (decodeElement levels)) := by
        rw [decodeElement, read, sameTexts]
      exact .inr ⟨layout, ⟨wellFormed.toSound, sameChars, by rw [shape]; rfl⟩, shape⟩

/-- What holds of all lists that become nodes holds of the whole and in the elements. -/
theorem Opens.forall_opened_iff {levels : Nat} {text : List Char} {layout : Layout}
    (opens : Opens (levels + 1) text layout) (holds : Layout → Prop) :
    (∀ inner, Opened (levels + 1) text inner → holds inner) ↔
      holds layout ∧ ∀ element ∈ layout.elements, ∀ inner,
        Opened levels element.text inner → holds inner := by
  have unique : ∀ other, Opens (levels + 1) text other → other = layout := fun other others =>
    others.sound.unique opens.sound (others.chars.trans opens.chars.symm)
  constructor
  · intro all
    exact ⟨all layout (.whole opens), fun element member inner opened =>
      all inner (.nested opens member opened)⟩
  · rintro ⟨whole, nested⟩ inner opened
    cases opened with
    | whole others => exact unique inner others ▸ whole
    | nested others member opened =>
        exact nested _ (unique _ others ▸ member) inner opened

/-! ## Texts that come back -/

theorem elementText_list (branches : List (Tree String)) :
    elementText (.list branches) = encodeElements (branches.map elementText) := by
  rw [Tree.list, elementText, elementTexts_eq_map]

theorem elementText_iff_of_leaf {levels : Nat} {text : List Char}
    (leaf : decodeElement levels text = .text (String.ofList text)) :
    elementText (decodeElement levels text) = text ↔
      ∀ layout, Opened levels text layout → layout.Padded := by
  refine iff_of_true ?_ fun layout opened => absurd opened (not_opened_of_leaf leaf layout)
  rw [leaf, elementText, String.toList_ofList]

/-- An element is written as it was read exactly when all lists in it that became nodes have
the written layout. The induction is on the levels: text below the last one is kept as it is. -/
theorem elementText_decodeElement_iff (levels : Nat) (text : List Char) :
    elementText (decodeElement levels text) = text ↔
      ∀ layout, Opened levels text layout → layout.Padded := by
  induction levels generalizing text with
  | zero => exact elementText_iff_of_leaf rfl
  | succ levels inductionHypothesis =>
      obtain leaf | ⟨layout, opens, shape⟩ := decodeElement_cases levels text
      · exact elementText_iff_of_leaf leaf
      · have elements : layout.texts =
            (layout.texts.map (decodeElement levels)).map elementText ↔
              ∀ element ∈ layout.elements,
                elementText (decodeElement levels element.text) = element.text := by
          rw [Layout.texts, List.map_map, List.map_map, List.map_inj_left]
          exact forall₂_congr fun _ _ => eq_comm
        rw [opens.forall_opened_iff, shape, elementText_list, ← opens.chars, eq_comm,
          opens.sound.chars_eq_encodeElements_iff, elements]
        exact and_congr_right fun _ => forall₂_congr fun element _ =>
          inductionHypothesis element.text

/-- A text comes back when its tree is written exactly when every list in it that became a
node has the written layout. -/
theorem encode_eq_iff {text : String} {tree : Tree String} (decoded : decode text = .ok tree) :
    encode tree = text ↔
      ∀ layout, Opened (maxNesting + 1) text.toList layout → layout.Padded := by
  obtain ⟨texts, read, shape⟩ := list_of_decode decoded
  have element : decodeElement (maxNesting + 1) text.toList = tree := by
    rw [decodeElement, read, shape]
  have written : (encode tree).toList = elementText tree := by
    rw [encode, String.toList_ofList, shape]
    rfl
  rw [← elementText_decodeElement_iff, element, ← written, String.toList_inj]

/-- Trees that are read have nodes without values, no deeper than the greatest nesting, and
no leaf that looks like a list where a list could stand. Such a tree is read from its own
text, and that is the text it was read from exactly when all lists in it were written with
the least width. -/
theorem decode_canonical {text : String} {tree : Tree String} (decoded : decode text = .ok tree) :
    tree.isList = true ∧
    (∀ path value branches, tree.branchAt? path = some (.node value branches) →
      value = "" ∧ path.length ≤ maxNesting) ∧
    (∀ path value, path.length ≤ maxNesting → tree.branchAt? path = some (.leaf value) →
      ∃ error, decode value = .error error) ∧
    ((encode tree).utf8ByteSize < 1000000000 → decode (encode tree) = .ok tree) ∧
    (encode tree = text ↔
      ∀ layout, Opened (maxNesting + 1) text.toList layout → layout.Padded) := by
  have carried := carried_of_decode decoded
  obtain ⟨texts, -, shape⟩ := list_of_decode decoded
  have isList : tree.isList = true := by
    rw [shape]
    rfl
  have nodes : ∀ path value branches, tree.branchAt? path = some (.node value branches) →
      value = "" ∧ path.length ≤ maxNesting := by
    intro path value branches position
    obtain ⟨unnamed, inside⟩ := (carried.position path).1 value branches position
    exact ⟨unnamed, Nat.le_of_lt_succ inside⟩
  have leaves : ∀ path value, path.length ≤ maxNesting →
      tree.branchAt? path = some (.leaf value) → ∃ error, decode value = .error error :=
    fun path value inside position =>
      (carried.position path).2 value position (Nat.lt_succ_of_le inside)
  refine ⟨isList, nodes, leaves, fun short => ?_, encode_eq_iff decoded⟩
  have carriable : Carriable tree :=
    ⟨isList, fun path value branches position => (nodes path value branches position).1,
      fun path value branches position => (nodes path value branches position).2, leaves, short⟩
  exact carriable.comesBack

/-- Short runs of digits do not come back; the tree does. -/
theorem decode_canonical_looseText :
    decode looseText = .ok (.list [.list [], .text "é"]) ∧
      decode (encode (.list [.list [], .text "é"])) = .ok (.list [.list [], .text "é"]) ∧
      ¬ ∀ layout, Opened (maxNesting + 1) looseText.toList layout → layout.Padded := by
  obtain ⟨-, -, -, readAgain, comesBack⟩ := decode_canonical decode_looseText
  exact ⟨decode_looseText, readAgain (by decide +kernel), mt comesBack.mpr (by decide +kernel)⟩

end ListInvocation.Wire
