import ListInvocation.Symbols
import ListInvocation.Proofs.Association

/-!
Contract: look-ups of symbols, and leaves that are one reference.

Owns: the effect of an assignment on look-ups, and the tree in place of a leaf that is a
dollar sign and a bound name.

Does not own: references inside longer texts.
-/

namespace ListInvocation.SymbolTable

theorem find?_assign_self (table : SymbolTable) (name : String) (tree : Tree String) :
    (table.assign name tree).find? name = some tree := by
  unfold find? assign
  rw [List.lookup_cons_self]

/-- An assignment to another name leaves a symbol as it is. -/
theorem find?_assign_of_ne (table : SymbolTable) {name other : String}
    (different : other ≠ name) (tree : Tree String) :
    (table.assign name tree).find? other = table.find? other :=
  lookup_replace_of_ne different tree table.bindings

/-- The leaf that refers to a symbol and holds nothing else. -/
def reference (name : String) : Tree String :=
  .text (String.singleton referenceSign ++ name)

variable [Text.Alphabet]

/-- A reference to a bound symbol, whatever its name, stands for the bound tree. -/
theorem substitute_reference {table : SymbolTable} {name : String} {tree : Tree String}
    (bound : table.find? name = some tree) : table.substitute (reference name) = tree := by
  have shape : (String.singleton referenceSign ++ name).toList =
      referenceSign :: name.toList := by
    rw [String.toList_append, String.toList_singleton]
    rfl
  unfold reference substitute substituteLeaf
  simp only [shape, if_true, String.ofList_toList, bound]

theorem substituteAll_eq_map (table : SymbolTable) (trees : List (Tree String)) :
    table.substituteAll trees = trees.map table.substitute := by
  induction trees with
  | nil => rfl
  | cons tree trees inductionHypothesis =>
      rw [substituteAll, inductionHypothesis, List.map_cons]

end ListInvocation.SymbolTable
