import ListInvocation.Proofs.Session.Reachable
import ListInvocation.Proofs.Symbols.Reading
import ListInvocation.Platform

/-!
Contract: a leaf that is one reference, and the same reference inside a text.

A leaf that is a sign and a bound text stands for what is bound, whatever that text is; inside a
text, names are read. As long as leaves are bound, the two agree on names, and on other bound
texts only by chance.

Owns: names, symbols that are bound to leaves, references inside longer texts, the agreement of
the two substitutions, and a symbol whose name makes them differ.

Does not own: symbols that are bound to lists.
-/

namespace ListInvocation

namespace SymbolTable

open ListInvocation.Text

/-- A name that a reference inside a text can have. -/
def IsName [Text.Alphabet] (name : String) : Prop :=
  name ≠ "" ∧ ∀ character ∈ name.toList, isNameCharacter character = true

def AllLeaves (table : SymbolTable) : Prop :=
  ∀ name tree, table.find? name = some tree → tree.isLeaf = true

variable {table : SymbolTable} {name value text : String}

theorem allLeaves_empty : empty.AllLeaves := nofun

theorem AllLeaves.assign (leaves : table.AllLeaves) (name value : String) :
    (table.assign name (.leaf value)).AllLeaves := by
  intro other tree bound
  by_cases same : other = name
  · rw [same, find?_assign_self] at bound
    rw [← Option.some.inj bound]
    rfl
  · rw [find?_assign_of_ne table same] at bound
    exact leaves other tree bound

theorem referenceText_nil (table : SymbolTable) :
    table.referenceText [] = [referenceSign] := by
  unfold referenceText
  split <;> rfl

/-! ## References inside a text -/

variable [Text.Alphabet]

/-- A sign begins a reference wherever it stands, so that the pass can be cut in front of it. -/
theorem substituteChars_append_sign (table : SymbolTable) (before rest : List Char) :
    table.substituteChars (before ++ referenceSign :: rest) =
      table.substituteChars before ++ table.substituteChars (referenceSign :: rest) := by
  obtain ⟨⟨literal, references, plain⟩, read⟩ := Reading.exists_reading before
  obtain ⟨⟨later, others, laterPlain⟩, laterRead⟩ :=
    Reading.exists_reading (referenceSign :: rest)
  have nothing : later = [] := by
    cases later with
    | nil => rfl
    | cons first more =>
        have isSign : first = referenceSign := (List.cons.inj laterRead).1
        exact absurd (isSign ▸ List.mem_cons_self) laterPlain
  subst nothing
  have whole : (Reading.mk literal (references ++ others) plain).text =
      before ++ referenceSign :: rest := by
    rw [← read, ← laterRead]
    simp [Reading.text, Reading.written]
  rw [← whole, substituteChars_text, ← read, substituteChars_text, ← laterRead,
    substituteChars_text]
  simp [Reading.written]

theorem substituteChars_reference {run rest : List Char}
    (named : ∀ character ∈ run, isNameCharacter character = true)
    (ended : ∀ character ∈ rest.head?, isNameCharacter character = false) :
    table.substituteChars (referenceSign :: (run ++ rest)) =
      table.referenceText run ++ table.substituteChars rest := by
  have taken := table.substituteChars_sign List.not_mem_nil (run ++ rest)
  rwa [List.nil_append, List.nil_append, takeWhile_run named ended, dropWhile_run named ended]
    at taken

/-- A reference that ends with its name is replaced in the same way, whatever stands around
it. -/
theorem substituteText_around
    (named : ∀ character ∈ name.toList, isNameCharacter character = true)
    (before : String) {after : String}
    (ended : ∀ character ∈ after.toList.head?, isNameCharacter character = false) :
    table.substituteText (before ++ (String.singleton referenceSign ++ name) ++ after) =
      table.substituteText before ++ String.ofList (table.referenceText name.toList) ++
        table.substituteText after := by
  have shape : (before ++ (String.singleton referenceSign ++ name) ++ after).toList =
      before.toList ++ referenceSign :: (name.toList ++ after.toList) := by
    simp [String.toList_append, String.toList_singleton]
  simp only [substituteText_eq]
  rw [shape, substituteChars_append_sign, substituteChars_reference named ended]
  simp [String.ofList_append, String.append_assoc]

theorem substituteText_reference
    (named : ∀ character ∈ name.toList, isNameCharacter character = true) :
    table.substituteText (String.singleton referenceSign ++ name) =
      String.ofList (table.referenceText name.toList) := by
  have nothing : table.substituteText "" = "" := by
    simp [substituteText]
  have ended : ∀ character ∈ "".toList.head?, isNameCharacter character = false := nofun
  have alone : table.substituteText ("" ++ (String.singleton referenceSign ++ name) ++ "") = _ :=
    substituteText_around named "" ended
  rwa [nothing, String.empty_append, String.append_empty, String.empty_append,
    String.append_empty] at alone

/-! ## Symbols that no text refers to -/

/-- Whether a symbol is bound makes no difference to a text, if its name is none. -/
theorem referenceText_assign_of_not_isName (nameless : ¬ IsName name) (tree : Tree String)
    {run : List Char} (named : ∀ character ∈ run, isNameCharacter character = true) :
    (table.assign name tree).referenceText run = table.referenceText run := by
  by_cases empty : run = []
  · rw [empty, referenceText_nil, referenceText_nil]
  · have other : String.ofList run ≠ name := by
      intro same
      apply nameless
      rw [← same]
      refine ⟨?_, by simpa using named⟩
      intro noText
      apply empty
      rw [← String.toList_ofList (l := run), noText]
      rfl
    rw [referenceText, referenceText, find?_assign_of_ne table other]

theorem substituteText_assign_of_not_isName (nameless : ¬ IsName name) (tree : Tree String) :
    (table.assign name tree).substituteText text = table.substituteText text := by
  obtain ⟨⟨literal, references, plain⟩, read⟩ := Reading.exists_reading text.toList
  have sameInPlace : ∀ reference ∈ references,
      (table.assign name tree).referenceText reference.name ++ reference.literal =
        table.referenceText reference.name ++ reference.literal := by
    intro reference _
    rw [referenceText_assign_of_not_isName nameless tree reference.named]
  rw [substituteText_eq, substituteText_eq, ← read, substituteChars_text, substituteChars_text,
    Reading.written, Reading.written, List.flatMap_congr sameInPlace]

/-! ## Leaves that are one reference -/

theorem substitute_leaf_of_unbound
    (unbound : ∀ name, text = String.singleton referenceSign ++ name →
      table.find? name = none) :
    table.substitute (.text text) = .text (table.substituteText text) := by
  unfold substitute substituteLeaf
  cases shape : text.toList with
  | nil => rfl
  | cons first rest =>
      by_cases sign : first = referenceSign
      · have whole : text = String.singleton referenceSign ++ String.ofList rest := by
          apply String.toList_inj.mp
          rw [shape, sign]
          simp [String.toList_append, String.toList_singleton]
        simp [sign, unbound _ whole]
      · simp [sign]

theorem substituteText_of_bound (isName : IsName name)
    (bound : table.find? name = some (.leaf value)) :
    table.substituteText (String.singleton referenceSign ++ name) = value := by
  have present : name.toList.isEmpty = false := by
    rw [List.isEmpty_eq_false_iff]
    exact fun empty => isName.1 (String.toList_inj.mp empty)
  have inside : table.referenceText name.toList = value.toList := by
    simp [referenceText, bound, present]
  rw [substituteText_reference isName.2, inside, String.ofList_toList]

/-- A leaf is substituted as its text is, unless it is a sign and a bound text that no reference
can have as its name. -/
theorem substitute_leaf_iff (leaves : table.AllLeaves) :
    table.substitute (.text text) = .text (table.substituteText text) ↔
      ∀ name meaning, text = String.singleton referenceSign ++ name →
        table.find? name = some (.leaf meaning) →
        IsName name ∨ table.substituteText text = meaning := by
  constructor
  · intro agrees name meaning isReference bound
    have outside : table.substitute (reference name) = .leaf meaning :=
      substitute_reference bound
    rw [reference, ← isReference, agrees] at outside
    exact .inr (Tree.leaf.inj outside)
  · intro meant
    by_cases whole : ∃ name tree,
        text = String.singleton referenceSign ++ name ∧ table.find? name = some tree
    · obtain ⟨name, tree, isReference, bound⟩ := whole
      have isLeaf := leaves name tree bound
      cases tree with
      | node _ _ => contradiction
      | leaf meaning =>
          have inside : table.substituteText text = meaning := by
            rcases meant name meaning isReference bound with isName | same
            · rw [isReference, substituteText_of_bound isName bound]
            · exact same
          rw [inside, isReference]
          exact substitute_reference bound
    · apply substitute_leaf_of_unbound
      intro name isReference
      cases bound : table.find? name with
      | none => rfl
      | some tree => exact absurd ⟨name, tree, isReference, bound⟩ whole

end SymbolTable

/-! ## References in a session -/

variable [Text.Alphabet]

namespace Session

open SymbolTable

variable {session : Session} {text : String}

/-- Where only leaves are bound, a leaf argument means what its text means, unless it is a sign
and a bound text that is no name: whatever such a text is bound to, all texts are read as
before. Where the two agree, a leaf argument is resolved as a class of the same text is, and
a reference to a name means the same inside longer texts. -/
theorem substitute_agrees_iff (leaves : session.symbols.AllLeaves) :
    (session.symbols.substitute (.text text) = .text (session.symbols.substituteText text) ↔
      ∀ name meaning, text = String.singleton referenceSign ++ name →
        session.symbols.find? name = some (.leaf meaning) →
        IsName name ∨ session.symbols.substituteText text = meaning) ∧
      (∀ name tree, ¬ IsName name →
        (session.symbols.assign name tree).substituteText text =
          session.symbols.substituteText text) ∧
      (session.symbols.substitute (.text text) = .text (session.symbols.substituteText text) →
        ∀ meaning, session.symbols.substitute (.text text) = .text meaning →
          session.classFor text = session.registry.resolve meaning session.searchPath) ∧
      ∀ name meaning before after, IsName name →
        session.symbols.substitute (reference name) = .text meaning →
        (∀ character ∈ after.toList.head?, Text.isNameCharacter character = false) →
        session.symbols.substituteText
            (before ++ (String.singleton referenceSign ++ name) ++ after) =
          session.symbols.substituteText before ++ meaning ++
            session.symbols.substituteText after := by
  refine ⟨substitute_leaf_iff leaves, ?_, ?_, ?_⟩
  · intro name tree nameless
    exact substituteText_assign_of_not_isName nameless tree
  · intro agrees meaning same
    rw [agrees] at same
    rw [classFor, Tree.leaf.inj same]
  · intro name meaning before after isName same ended
    have onlyName : ∀ other value, String.singleton referenceSign ++ name =
        String.singleton referenceSign ++ other →
        session.symbols.find? other = some (.leaf value) →
        IsName other ∨
          session.symbols.substituteText (String.singleton referenceSign ++ name) = value := by
      intro other value isReference _
      exact .inl (String.append_right_inj _ |>.mp isReference ▸ isName)
    rw [reference, (substitute_leaf_iff leaves).mpr onlyName,
      substituteText_reference isName.2] at same
    rw [substituteText_around isName.2 before ended, Tree.leaf.inj same]

end Session

end ListInvocation

namespace ListInvocation.Session

open SymbolTable

/-- What a call answered is bound to a name, and read by it. -/
theorem substitute_agrees_iff_total :
    let session := (sampleSession.run (.callAndAssign "total" "c" "total" [])).2
    session.symbols.AllLeaves ∧
      session.symbols.find? "total" = some (.leaf "0") ∧
      session.symbols.substitute (.text "$total") =
        .text (session.symbols.substituteText "$total") := by
  intro session
  have symbols : session.symbols = empty.assign "total" (.leaf "0") := rfl
  have leaves : session.symbols.AllLeaves := symbols ▸ allLeaves_empty.assign "total" "0"
  have bound : session.symbols.find? "total" = some (.leaf "0") :=
    symbols ▸ find?_assign_self empty "total" (.leaf "0")
  refine ⟨leaves, bound, (substitute_agrees_iff leaves).1.mpr ?_⟩
  intro name meaning isReference _
  have isTotal : name = "total" := String.append_right_inj _ |>.mp isReference.symm
  have characters : "total".toList.all Text.isNameCharacter = true := by decide +kernel
  rw [isTotal]
  exact .inl ⟨by decide, List.all_eq_true.mp characters⟩

/-- A symbol can have a text for its name that is none: it is read as a leaf, and in no other
place. -/
theorem substitute_disagrees_dashedName :
    let session := ((start Sample.registry .standard).run (.assign "x-1" (.text "v"))).2
    Reachable Sample.registry .standard session ∧ session.symbols.AllLeaves ∧
      session.symbols.substitute (.text "$x-1") = .text "v" ∧
      session.symbols.substituteText "$x-1" = "$x-1" ∧
      session.symbols.substitute (.text "$x-1") ≠
        .text (session.symbols.substituteText "$x-1") := by
  intro session
  have dash : Text.isNameCharacter '-' = false := by decide +kernel
  have nameless : ¬ IsName "x-1" := by
    intro isName
    exact absurd (isName.2 '-' (by simp)) (by simp [dash])
  have leaf : session.symbols.substitute (.text "$x-1") = .text "v" :=
    substitute_reference (find?_assign_self empty "x-1" (.text "v"))
  have verbatim : session.symbols.substituteText "$x-1" = "$x-1" :=
    substituteText_assign_of_not_isName nameless (.text "v")
  refine ⟨.run _ .start, allLeaves_empty.assign "x-1" "v", leaf, verbatim, ?_⟩
  rw [leaf, verbatim]
  decide

end ListInvocation.Session
