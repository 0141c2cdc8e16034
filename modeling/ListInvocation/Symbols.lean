import ListInvocation.Tree
import ListInvocation.Text.Alphabet

/-!
Contract: the symbols of a session and their substitution in arguments.

A leaf that is a dollar sign and a bound name stands for the bound tree, list or not.
In any other text each dollar sign starts a reference, whose name is the longest run of
name characters behind it; references to text are replaced, all others stay as they
are, and what was put in is not read again.

Owns: the table and both kinds of substitution.

Does not own: when a symbol is assigned.
-/

namespace ListInvocation

/-- The trees that symbols are bound to, the latest assignment first. -/
structure SymbolTable where
  bindings : List (String × Tree String)

namespace SymbolTable

def empty : SymbolTable := ⟨[]⟩

/-- Binds a name, in place of its earlier binding. -/
def assign (table : SymbolTable) (name : String) (tree : Tree String) : SymbolTable :=
  ⟨(name, tree) :: table.bindings.filter (fun binding => binding.1 != name)⟩

def find? (table : SymbolTable) (name : String) : Option (Tree String) :=
  table.bindings.lookup name

def referenceSign : Char := '$'

/-- The text in place of a reference to a name: the bound text, or the reference itself. -/
def referenceText (table : SymbolTable) (name : List Char) : List Char :=
  match table.find? (String.ofList name) with
  | some (.leaf value) =>
      if name.isEmpty then referenceSign :: name else value.toList
  | _ => referenceSign :: name

variable [Text.Alphabet]

/-- Replaces the references in a text, in one pass from left to right: everything up to the
next sign stays, the name is the longest run of name characters behind the sign, and the pass
goes on behind the name. -/
def substituteChars (table : SymbolTable) (text : List Char) : List Char :=
  match _ : text.dropWhile (fun character => character != referenceSign) with
  | [] => text
  | _ :: rest =>
      text.takeWhile (fun character => character != referenceSign)
        ++ table.referenceText (rest.takeWhile Text.isNameCharacter)
        ++ table.substituteChars (rest.dropWhile Text.isNameCharacter)
termination_by text.length
decreasing_by
  have behindName := (List.dropWhile_suffix Text.isNameCharacter (l := rest)).length_le
  have behindSign := (List.dropWhile_suffix (· != referenceSign) (l := text)).length_le
  rw [‹text.dropWhile _ = _›, List.length_cons] at behindSign
  omega

/-- Replaces the references in a text. Without symbols or signs there is nothing to do. -/
def substituteText (table : SymbolTable) (text : String) : String :=
  if table.bindings.isEmpty || !text.toList.contains referenceSign then text
  else String.ofList (table.substituteChars text.toList)

def substituteLeaf (table : SymbolTable) (text : String) : Tree String :=
  let whole :=
    match text.toList with
    | [] => none
    | sign :: name =>
        if sign = referenceSign then table.find? (String.ofList name) else none
  match whole with
  | some tree => tree
  | none => .text (table.substituteText text)

mutual

/-- Substitutes in every leaf of a tree; the values of list nodes stay. -/
def substitute (table : SymbolTable) : Tree String → Tree String
  | .leaf text => table.substituteLeaf text
  | .node value branches => .node value (substituteAll table branches)

/-- Substitutes in every tree of a list. -/
def substituteAll (table : SymbolTable) : List (Tree String) → List (Tree String)
  | [] => []
  | tree :: trees => substitute table tree :: substituteAll table trees

end

end SymbolTable

end ListInvocation
