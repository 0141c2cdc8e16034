import ListInvocation.Proofs.Wire.Grammar

/-!
Contract: written trees are read back.

Owns: the written form of a list in the grammar that is read, the trees that an element
brings back unchanged, and the round trip of a whole tree.

Does not own: texts that no writer produces.
-/

namespace ListInvocation.Wire

open ListInvocation.Text ListInvocation.Decimal

/-! ## Written lists are in the grammar -/

/-- A number below the limit of nine digits is written as a numeral. -/
theorem numeral_paddedDigits {number : Nat} (small : number < 1000000000) :
    Numeral (paddedDigits lengthWidth number) := by
  have bare : (digits number).length ≤ 9 := length_digits_le (by decide) small
  have length := length_paddedDigits lengthWidth number
  refine ⟨?_, ?_, fun character member => isDigit_of_mem_paddedDigits member⟩
  · rw [length]
    exact Nat.lt_of_lt_of_le (by decide) (Nat.le_max_left lengthWidth _)
  · rw [length]
    exact Nat.max_le.mpr ⟨by decide, bare⟩

theorem encodeElement_append (text rest : List Char) :
    encodeElement text ++ rest =
      paddedDigits lengthWidth (byteSize text) ++ ':' :: (text ++ ':' :: rest) := by
  simp [encodeElement, encodeLength]

theorem encodeElements_eq (texts : List (List Char)) :
    encodeElements texts =
      '[' :: (paddedDigits lengthWidth texts.length ++
        ':' :: (texts.flatMap encodeElement ++ [']'])) := by
  simp [encodeElements, encodeLength]

/-- Written elements spell their texts. -/
theorem elements_flatMap {texts : List (List Char)}
    (small : ∀ text ∈ texts, byteSize text < 1000000000) :
    Elements texts (texts.flatMap encodeElement) := by
  induction texts with
  | nil => exact .nil
  | cons text texts inductionHypothesis =>
      rw [List.flatMap_cons, encodeElement_append]
      refine .cons (numeral_paddedDigits (small text (by simp))) ?_ ?_
      · exact ofDigits_paddedDigits lengthWidth (byteSize text)
      · exact inductionHypothesis fun other member =>
          small other (List.mem_cons_of_mem text member)

/-! ## Sizes of written lists -/

theorem byteSize_encodeElement (text : List Char) :
    minElementBytes + byteSize text ≤ byteSize (encodeElement text) := by
  have width : lengthWidth ≤ byteSize (paddedDigits lengthWidth (byteSize text)) := by
    calc lengthWidth
        ≤ (paddedDigits lengthWidth (byteSize text)).length := by
          rw [length_paddedDigits]
          exact Nat.le_max_left _ _
      _ ≤ byteSize (paddedDigits lengthWidth (byteSize text)) := length_le_byteSize _
  have colon : (':' : Char).utf8Size = 1 := rfl
  simp only [encodeElement, encodeLength, byteSize_append, byteSize_cons, byteSize_nil,
    colon]
  unfold minElementBytes
  omega

/-- The count of a written list is one that the text behind it can hold. -/
theorem length_le_byteSize_flatMap (texts : List (List Char)) :
    minElementBytes * texts.length ≤ byteSize (texts.flatMap encodeElement) := by
  induction texts with
  | nil => simp
  | cons text texts inductionHypothesis =>
      have head := byteSize_encodeElement text
      rw [List.flatMap_cons, byteSize_append, List.length_cons, Nat.mul_succ]
      omega

theorem byteSize_le_of_mem {text : List Char} {texts : List (List Char)}
    (member : text ∈ texts) : byteSize text ≤ byteSize (texts.flatMap encodeElement) := by
  induction texts with
  | nil => exact absurd member List.not_mem_nil
  | cons head tail inductionHypothesis =>
      rw [List.flatMap_cons, byteSize_append]
      rcases List.mem_cons.mp member with same | inTail
      · subst same
        have size := byteSize_encodeElement text
        omega
      · have size := inductionHypothesis inTail
        omega

theorem byteSize_flatMap_le (texts : List (List Char)) :
    byteSize (texts.flatMap encodeElement) ≤ byteSize (encodeElements texts) := by
  rw [encodeElements_eq]
  simp only [byteSize_cons, byteSize_append]
  omega

theorem byteSize_encodeLength_mono {small large : Nat} (le : small ≤ large) :
    byteSize (encodeLength small) ≤ byteSize (encodeLength large) := by
  have digitsOnly : ∀ number, byteSize (paddedDigits lengthWidth number) =
      max lengthWidth (digits number).length := fun number =>
    (byteSize_of_digits fun _ => isDigit_of_mem_paddedDigits).trans
      (length_paddedDigits lengthWidth number)
  have fewer := length_digits_mono le
  simp only [encodeLength, byteSize_append, digitsOnly]
  omega

/-- Leaving out elements makes a written list no longer. -/
theorem byteSize_encodeElements_le {texts others : List (List Char)}
    (sublist : texts.Sublist others) :
    byteSize (encodeElements texts) ≤ byteSize (encodeElements others) := by
  have body : byteSize (texts.flatMap encodeElement) ≤ byteSize (others.flatMap encodeElement) := by
    induction sublist with
    | slnil => exact Nat.le_refl _
    | cons text _ inductionHypothesis =>
        rw [List.flatMap_cons, byteSize_append]
        exact Nat.le_add_left_of_le inductionHypothesis
    | cons_cons text _ inductionHypothesis =>
        rw [List.flatMap_cons, List.flatMap_cons, byteSize_append, byteSize_append]
        exact Nat.add_le_add_left inductionHypothesis _
  have count := byteSize_encodeLength_mono sublist.length_le
  simp only [encodeElements, byteSize_append, byteSize_cons]
  omega

/-- A written list is read as the texts of its elements. -/
theorem splitList_encodeElements {texts : List (List Char)}
    (small : byteSize (encodeElements texts) < 1000000000) :
    splitList (encodeElements texts) = .ok texts := by
  have bodySize := byteSize_flatMap_le texts
  have count := length_le_byteSize_flatMap texts
  have countSmall : texts.length < 1000000000 := by
    unfold minElementBytes lengthWidth at count
    omega
  have elementsSmall : ∀ text ∈ texts, byteSize text < 1000000000 := by
    intro text member
    have elementSize := byteSize_le_of_mem member
    omega
  have fits : texts.length ≤
      byteSize (texts.flatMap encodeElement ++ [']']) / minElementBytes := by
    rw [Nat.le_div_iff_mul_le (by decide), Nat.mul_comm, byteSize_append]
    omega
  rw [encodeElements_eq]
  exact splitList_of_elements (numeral_paddedDigits countSmall)
    (ofDigits_paddedDigits lengthWidth texts.length) (elements_flatMap elementsSmall) fits

/-! ## Trees that come back -/

theorem elementTexts_eq_map (trees : List (Tree String)) :
    elementTexts trees = trees.map elementText := by
  induction trees with
  | nil => rfl
  | cons tree trees inductionHypothesis =>
      rw [elementTexts, inductionHypothesis, List.map_cons]

theorem decode_eq_error_iff {text : String} {error : WireError} :
    decode text = .error error ↔ splitList text.toList = .error error := by
  unfold decode decodeChars decodeWithin
  cases splitList text.toList <;> simp

/-- What an element brings back unchanged when so many levels of nesting are left. -/
def Carried : (levels : Nat) → Tree String → Prop
  | 0, .leaf _ => True
  | 0, .node _ _ => False
  | _ + 1, .leaf text => ∃ error, decode text = .error error
  | levels + 1, .node value branches =>
      value = "" ∧ ∀ branch ∈ branches, Carried levels branch

theorem byteSize_elementText_le {tree : Tree String} {branches : List (Tree String)}
    (member : tree ∈ branches) :
    byteSize (elementText tree) ≤ byteSize (encodeElements (elementTexts branches)) := by
  have inTexts : elementText tree ∈ elementTexts branches := by
    rw [elementTexts_eq_map]
    exact List.mem_map_of_mem member
  exact Nat.le_trans (byteSize_le_of_mem inTexts) (byteSize_flatMap_le _)

/-- The induction is on the levels left: a nested list is read with one level less, and its
elements are no longer than the list. -/
theorem decodeElement_elementText {levels : Nat} {tree : Tree String}
    (carried : Carried levels tree) (small : byteSize (elementText tree) < 1000000000) :
    decodeElement levels (elementText tree) = tree := by
  induction levels generalizing tree with
  | zero =>
      cases tree with
      | leaf text => rw [decodeElement, elementText, String.ofList_toList]
      | node value branches => exact carried.elim
  | succ levels inductionHypothesis =>
      cases tree with
      | leaf text =>
          obtain ⟨error, undecodable⟩ := carried
          rw [decodeElement, elementText, decode_eq_error_iff.mp undecodable,
            String.ofList_toList]
      | node value branches =>
          obtain ⟨unnamed, branchesCarried⟩ := carried
          subst unnamed
          have branchesBack :
              (elementTexts branches).map (decodeElement levels) = branches := by
            rw [elementTexts_eq_map, List.map_map]
            refine (List.map_congr_left fun branch member => ?_).trans (List.map_id branches)
            have branchSmall := byteSize_elementText_le member
            exact inductionHypothesis (branchesCarried branch member)
              (Nat.lt_of_le_of_lt branchSmall small)
          rw [elementText] at small
          rw [decodeElement, elementText, splitList_encodeElements small]
          simp only [branchesBack]
          rfl

theorem utf8ByteSize_encode (tree : Tree String) :
    (encode tree).utf8ByteSize = byteSize (encodeChars tree) :=
  utf8ByteSize_ofList _

/-- Whatever a short written tree holds, its text is read as a list of as many elements. -/
theorem decode_encode_eq {tree : Tree String} (small : (encode tree).utf8ByteSize < 1000000000) :
    decode (encode tree) =
      .ok (.list (tree.branches.map fun branch =>
        decodeElement maxNesting (elementText branch))) := by
  rw [utf8ByteSize_encode] at small
  rw [decode, encode, String.toList_ofList, decodeChars, decodeWithin, encodeChars,
    splitList_encodeElements small, elementTexts_eq_map]
  simp only [List.map_map, Function.comp_def]

/-! ## Conditions on the positions of a tree -/

/-- A tree that its wire text carries without loss. A position is a path from the root,
whose length is the number of list levels above it. -/
structure Carriable (tree : Tree String) : Prop where
  rootIsList : tree.isList = true
  /-- The value of a list node is not carried. -/
  unnamed : ∀ path value branches,
    tree.branchAt? path = some (.node value branches) → value = ""
  /-- Lists at greater depth are not read as lists. -/
  shallow : ∀ path value branches,
    tree.branchAt? path = some (.node value branches) → path.length ≤ maxNesting
  /-- A leaf where a list could stand must not look like one. -/
  plain : ∀ path text, path.length ≤ maxNesting →
    tree.branchAt? path = some (.leaf text) → ∃ error, decode text = .error error
  short : (encode tree).utf8ByteSize < 1000000000

theorem branchAt?_cons {tree branch : Tree String} {index : Nat}
    (found : tree.branches[index]? = some branch) (path : List Nat) :
    tree.branchAt? (index :: path) = branch.branchAt? path := by
  rw [Tree.branchAt?, found]

/-- The conditions on positions, collected level by level: below a parent with so many
levels left, paths are shorter by one. -/
theorem carried_of_positions {levels : Nat} {tree : Tree String}
    (unnamed : ∀ path value branches,
      tree.branchAt? path = some (.node value branches) → value = "")
    (shallow : ∀ path value branches,
      tree.branchAt? path = some (.node value branches) → path.length < levels)
    (plain : ∀ path text, path.length < levels →
      tree.branchAt? path = some (.leaf text) → ∃ error, decode text = .error error) :
    Carried levels tree := by
  induction levels generalizing tree with
  | zero =>
      cases tree with
      | leaf text => exact True.intro
      | node value branches =>
          exact absurd (shallow [] value branches rfl) (Nat.not_lt_zero _)
  | succ levels inductionHypothesis =>
      cases tree with
      | leaf text => exact plain [] text (Nat.succ_pos levels) rfl
      | node value branches =>
          refine ⟨unnamed [] value branches rfl, fun branch member => ?_⟩
          obtain ⟨index, found⟩ := List.getElem?_of_mem member
          have below : ∀ path, (Tree.node value branches).branchAt? (index :: path) =
              branch.branchAt? path := branchAt?_cons found
          apply inductionHypothesis
          · intro path innerValue innerBranches position
            exact unnamed (index :: path) innerValue innerBranches (below path ▸ position)
          · intro path innerValue innerBranches position
            exact Nat.lt_of_succ_lt_succ
              (shallow (index :: path) innerValue innerBranches (below path ▸ position))
          · intro path text inside position
            exact plain (index :: path) text (Nat.succ_lt_succ inside)
              (below path ▸ position)

theorem Carriable.branches {tree : Tree String} (carriable : Carriable tree) :
    ∀ branch ∈ tree.branches, Carried maxNesting branch := by
  intro branch member
  obtain ⟨index, found⟩ := List.getElem?_of_mem member
  have below := branchAt?_cons found
  apply carried_of_positions
  · intro path value branches position
    exact carriable.unnamed (index :: path) value branches (below path ▸ position)
  · intro path value branches position
    exact carriable.shallow (index :: path) value branches (below path ▸ position)
  · intro path text inside position
    exact carriable.plain (index :: path) text inside (below path ▸ position)

/-- A carriable tree is read back as it was. -/
theorem Carriable.comesBack {tree : Tree String} (carriable : Carriable tree) :
    decode (encode tree) = .ok tree := by
  have small := carriable.short
  rw [decode_encode_eq small]
  rw [utf8ByteSize_encode] at small
  cases tree with
  | leaf text => exact absurd carriable.rootIsList Bool.false_ne_true
  | node value branches =>
      have unnamed : value = "" := carriable.unnamed [] value branches rfl
      subst unnamed
      have branchesBack :
          branches.map (fun branch => decodeElement maxNesting (elementText branch)) =
            branches := by
        refine (List.map_congr_left fun branch member => ?_).trans (List.map_id branches)
        exact decodeElement_elementText (carriable.branches branch member)
          (Nat.lt_of_le_of_lt (byteSize_elementText_le member) small)
      rw [Tree.branches_node, branchesBack]
      rfl

/-- What is carried meets the conditions at every position. -/
theorem Carried.position {levels : Nat} {tree : Tree String} (carried : Carried levels tree)
    (path : List Nat) :
    (∀ value branches, tree.branchAt? path = some (.node value branches) →
      value = "" ∧ path.length < levels) ∧
    (∀ text, tree.branchAt? path = some (.leaf text) → path.length < levels →
      ∃ error, decode text = .error error) := by
  induction path generalizing levels tree with
  | nil =>
      constructor
      · intro value branches position
        cases Option.some.inj position
        cases levels with
        | zero => exact carried.elim
        | succ levels => exact ⟨carried.1, Nat.succ_pos levels⟩
      · intro text position inside
        cases Option.some.inj position
        cases levels with
        | zero => exact absurd inside (Nat.not_lt_zero _)
        | succ levels => exact carried
  | cons index path inductionHypothesis =>
      cases found : tree.branches[index]? with
      | none =>
          have outside : tree.branchAt? (index :: path) = none := by
            rw [Tree.branchAt?, found]
          simp [outside]
      | some branch =>
          have member := List.mem_of_getElem? found
          rw [branchAt?_cons found, List.length_cons]
          cases tree with
          | leaf text => exact absurd member List.not_mem_nil
          | node value branches =>
              cases levels with
              | zero => exact carried.elim
              | succ levels =>
                  have below := inductionHypothesis (carried.2 branch member)
                  constructor
                  · intro innerValue innerBranches position
                    obtain ⟨unnamed, inside⟩ := below.1 innerValue innerBranches position
                    exact ⟨unnamed, Nat.succ_lt_succ inside⟩
                  · intro text position inside
                    exact below.2 text position (Nat.lt_of_succ_lt_succ inside)

/-- A short list of what is carried is carriable. -/
theorem carriable_list {branches : List (Tree String)}
    (carried : ∀ branch ∈ branches, Carried maxNesting branch)
    (short : (encode (.list branches)).utf8ByteSize < 1000000000) :
    Carriable (.list branches) := by
  have whole : Carried (maxNesting + 1) (.list branches) := ⟨rfl, carried⟩
  refine ⟨rfl, ?_, ?_, ?_, short⟩
  · intro path value innerBranches position
    exact ((whole.position path).1 value innerBranches position).1
  · intro path value innerBranches position
    exact Nat.le_of_lt_succ ((whole.position path).1 value innerBranches position).2
  · intro path text inside position
    exact (whole.position path).2 text position (Nat.lt_succ_of_le inside)

/-- Texts that do not look like lists are carried in a list. -/
theorem carried_textList {levels : Nat} {texts : List String}
    (plain : ∀ text ∈ texts, ∃ error, decode text = .error error) :
    Carried (levels + 2) (Tree.textList texts) := by
  refine ⟨rfl, fun branch member => ?_⟩
  obtain ⟨text, inTexts, same⟩ := List.mem_map.mp member
  subst same
  exact plain text inTexts

/-- A list is carriable without some of its elements. -/
theorem Carriable.of_sublist {branches others : List (Tree String)}
    (carriable : Carriable (.list others)) (sublist : branches.Sublist others) :
    Carriable (.list branches) := by
  refine carriable_list (fun branch member => carriable.branches branch (sublist.subset member)) ?_
  refine Nat.lt_of_le_of_lt ?_ carriable.short
  rw [utf8ByteSize_encode, utf8ByteSize_encode, encodeChars, encodeChars, Tree.branches_list,
    Tree.branches_list, elementTexts_eq_map, elementTexts_eq_map]
  exact byteSize_encodeElements_le (sublist.map elementText)

/-! ## The round trip -/

/-- A count or length as it stands in a wire text. -/
def lengthText (length : Nat) : String :=
  String.ofList (encodeLength length)

def elementString : Tree String → String
  | .leaf text => text
  | .node value branches => encode (.node value branches)

theorem toList_elementString (tree : Tree String) :
    (elementString tree).toList = elementText tree := by
  cases tree with
  | leaf text => rw [elementString, elementText]
  | node value branches =>
      rw [elementString, elementText, encode, String.toList_ofList, encodeChars,
        Tree.branches_node]

/-- The wire text in terms of strings: every length counts the bytes of its string. -/
theorem encode_eq_join (tree : Tree String) :
    encode tree =
      "[" ++ lengthText tree.branches.length ++
        String.join (tree.branches.map fun branch =>
          lengthText (elementString branch).utf8ByteSize ++ elementString branch ++ ":") ++
        "]" := by
  apply String.toList_injective
  have element : ∀ branch : Tree String,
      (lengthText (elementString branch).utf8ByteSize ++ elementString branch ++ ":").toList =
        encodeElement (elementText branch) := by
    intro branch
    rw [← byteSize_toList, String.toList_append, String.toList_append, toList_elementString,
      lengthText, String.toList_ofList, encodeElement]
    rfl
  simp only [String.toList_append, String.toList_join, List.flatMap_map, element]
  rw [encode, encodeChars, encodeElements, elementTexts_eq_map, List.length_map,
    List.flatMap_map]
  simp only [lengthText, String.toList_ofList]
  rfl

/-- A tree survives its wire text node for node, no other tree has the same wire text, and
lengths in that text count bytes. -/
theorem decode_encode (tree : Tree String) (carriable : Carriable tree) :
    decode (encode tree) = .ok tree ∧
    (∀ other, Carriable other → encode other = encode tree → other = tree) ∧
    encode tree =
      "[" ++ lengthText tree.branches.length ++
        String.join (tree.branches.map fun branch =>
          lengthText (elementString branch).utf8ByteSize ++ elementString branch ++ ":") ++
        "]" := by
  refine ⟨carriable.comesBack, ?_, encode_eq_join tree⟩
  intro other otherCarriable sameText
  have otherBack := otherCarriable.comesBack
  rw [sameText, carriable.comesBack] at otherBack
  exact (Except.ok.inj otherBack).symm

/-- A tree with an empty list, an empty text, and a text that begins like a list. -/
def bracketedTree : Tree String :=
  .list [.list [], .text "", .text "[000001:000009:é]:", .list [.text "]", .list [.text "7:"]]]

theorem carriable_bracketedTree : Carriable bracketedTree := by
  refine carriable_list ?_ (by decide +kernel)
  have plain : ∀ levels, ∀ text ∈ ["", "[000001:000009:é]:", "]", "7:"],
      Carried (levels + 1) (.text text) := by
    intro levels text member
    simp only [List.mem_cons, List.not_mem_nil, or_false] at member
    rcases member with same | same | same | same <;> subst same
    · exact ⟨.truncated 0, rfl⟩
    · exact ⟨.truncated 19, by with_unfolding_all rfl⟩
    · exact ⟨.missingDelimiter '[' 0, rfl⟩
    · exact ⟨.missingDelimiter '[' 0, rfl⟩
  simp only [List.mem_cons, List.not_mem_nil, or_false]
  rintro branch (same | same | same | same) <;> subst same
  · exact ⟨rfl, by simp⟩
  · exact plain 63 "" (by simp)
  · exact plain 63 "[000001:000009:é]:" (by simp)
  · refine ⟨rfl, ?_⟩
    simp only [List.mem_cons, List.not_mem_nil, or_false]
    rintro branch (same | same) <;> subst same
    · exact plain 62 "]" (by simp)
    · refine ⟨rfl, fun branch member => ?_⟩
      rw [List.mem_singleton.mp member]
      exact plain 61 "7:" (by simp)

theorem decode_encode_bracketedTree :
    Carriable bracketedTree ∧ decode (encode bracketedTree) = .ok bracketedTree :=
  ⟨carriable_bracketedTree, (decode_encode bracketedTree carriable_bracketedTree).1⟩

end ListInvocation.Wire
