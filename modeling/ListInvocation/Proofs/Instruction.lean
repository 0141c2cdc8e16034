import ListInvocation.Proofs.Session.Batch

/-!
Contract: the trees that are instructions, and that decoding loses nothing of them.

Owns: the grammar of instructions, the branches that an instruction is written as, and
decoding as the inverse of writing.

Does not own: what the elements of other trees look like in a report.
-/

namespace ListInvocation

/-! ## Written instructions -/

namespace Operation

def verb : Operation → String
  | .make .. => "make"
  | .call .. => "call"
  | .callAndAssign .. => "callAndAssign"
  | .importPath _ => "import"
  | .assign .. => "assign"

/-- The names behind the verb. -/
def names : Operation → List String
  | .make target className _ => [target, className]
  | .call target member _ => [target, member]
  | .callAndAssign symbol target member _ => [symbol, target, member]
  | .importPath path => [path]
  | .assign symbol _ => [symbol]

/-- The trees behind the names. -/
def arguments : Operation → List (Tree String)
  | .make _ _ arguments => arguments
  | .call _ _ arguments => arguments
  | .callAndAssign _ _ _ arguments => arguments
  | .importPath _ => []
  | .assign _ value => [value]

end Operation

namespace Instruction

/-- An instruction in branches: its identifier, its verb, the names, and the other trees. -/
def branches (instruction : Instruction) : List (Tree String) :=
  .text instruction.id :: .text instruction.operation.verb ::
    (instruction.operation.names.map Tree.text ++ instruction.operation.arguments)

/-- The branches that are an instruction. Identifier, verb and names are leaves; arguments
and the value of a symbol are any trees. -/
inductive IsWritten : List (Tree String) → Prop where
  | member {verb : String} (id target name : String) (arguments : List (Tree String)) :
      verb = "make" ∨ verb = "call" →
      IsWritten (.text id :: .text verb :: .text target :: .text name :: arguments)
  | callAndAssign (id symbol target name : String) (arguments : List (Tree String)) :
      IsWritten (.text id :: .text "callAndAssign" :: .text symbol :: .text target ::
        .text name :: arguments)
  | importPath (id path : String) : IsWritten [.text id, .text "import", .text path]
  | assign (id symbol : String) (value : Tree String) :
      IsWritten [.text id, .text "assign", .text symbol, value]

theorem isWritten_branches (instruction : Instruction) : IsWritten instruction.branches := by
  obtain ⟨id, operation⟩ := instruction
  cases operation with
  | make target className arguments => exact .member id target className arguments (.inl rfl)
  | call target member arguments => exact .member id target member arguments (.inr rfl)
  | callAndAssign symbol target member arguments =>
      exact .callAndAssign id symbol target member arguments
  | importPath path => exact .importPath id path
  | assign symbol value => exact .assign id symbol value

/-- What is written like an instruction is the branches of one. -/
theorem IsWritten.exists_instruction {trees : List (Tree String)} (written : IsWritten trees) :
    ∃ instruction : Instruction, trees = instruction.branches := by
  cases written with
  | member id target name arguments isVerb =>
      rcases isVerb with rfl | rfl
      · exact ⟨⟨id, .make target name arguments⟩, rfl⟩
      · exact ⟨⟨id, .call target name arguments⟩, rfl⟩
  | callAndAssign id symbol target name arguments =>
      exact ⟨⟨id, .callAndAssign symbol target name arguments⟩, rfl⟩
  | importPath id path => exact ⟨⟨id, .importPath path⟩, rfl⟩
  | assign id symbol value => exact ⟨⟨id, .assign symbol value⟩, rfl⟩

/-! ## Decoding -/

theorem decodeOperation?_eq_some_iff {verb : String} {trees : List (Tree String)}
    {operation : Operation} :
    decodeOperation? verb trees = some operation ↔
      verb = operation.verb ∧ trees = operation.names.map Tree.text ++ operation.arguments := by
  constructor
  · intro decoded
    unfold decodeOperation? at decoded
    split at decoded
    all_goals cases decoded
    all_goals exact ⟨rfl, rfl⟩
  · rintro ⟨rfl, rfl⟩
    cases operation <;> rfl

theorem ofBranches?_eq_some_iff {trees : List (Tree String)} {instruction : Instruction} :
    ofBranches? trees = some instruction ↔ trees = instruction.branches := by
  obtain ⟨id, operation⟩ := instruction
  constructor
  · intro spelled
    unfold ofBranches? at spelled
    split at spelled
    next first verb rest =>
      obtain ⟨found, decoded, made⟩ := Option.map_eq_some_iff.mp spelled
      obtain ⟨rfl, rfl⟩ := decodeOperation?_eq_some_iff.mp decoded
      cases made
      rfl
    next => contradiction
  · intro spelled
    have decoded : decodeOperation? operation.verb
        (operation.names.map Tree.text ++ operation.arguments) = some operation :=
      decodeOperation?_eq_some_iff.mpr ⟨rfl, rfl⟩
    simp only [spelled, branches, ofBranches?, decoded, Option.map_some]

theorem decode_eq_ok_iff {tree : Tree String} {instruction : Instruction} :
    decode tree = .ok instruction ↔ tree.branches = instruction.branches := by
  rw [← ofBranches?_eq_some_iff]
  unfold decode
  cases ofBranches? tree.branches <;> simp

/-- All that can be wrong with a tree comes to one failure, which names all its elements. -/
theorem decode_of_not_isWritten {tree : Tree String} (unwritten : ¬ IsWritten tree.branches) :
    decode tree = .error (.malformedInstruction (rawElements tree)) := by
  have unread : ofBranches? tree.branches = none := by
    rw [Option.eq_none_iff_forall_ne_some]
    intro instruction found
    apply unwritten
    rw [ofBranches?_eq_some_iff.mp found]
    exact isWritten_branches instruction
  rw [decode, unread]

/-- A tree is decoded exactly when its branches are written by the grammar, as the one
instruction that is written so, under the identifier that can be read off the tree; every
other tree is reported with all its elements. -/
theorem decode_written (tree : Tree String) :
    ((∃ instruction, decode tree = .ok instruction) ↔ IsWritten tree.branches) ∧
      (∀ instruction, decode tree = .ok instruction ↔ tree.branches = instruction.branches) ∧
      (∀ instruction, decode tree = .ok instruction → instruction.id = peekId tree) ∧
      (¬ IsWritten tree.branches →
        decode tree = .error (.malformedInstruction (rawElements tree))) := by
  refine ⟨⟨?_, ?_⟩, fun _ => decode_eq_ok_iff, fun _ => id_of_decode, decode_of_not_isWritten⟩
  · rintro ⟨instruction, decoded⟩
    rw [decode_eq_ok_iff.mp decoded]
    exact isWritten_branches instruction
  · intro written
    obtain ⟨instruction, same⟩ := written.exists_instruction
    exact ⟨instruction, decode_eq_ok_iff.mpr same⟩

end Instruction

end ListInvocation
