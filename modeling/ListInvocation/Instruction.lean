import ListInvocation.Tree
import ListInvocation.Failure

/-!
Contract: instructions, decoded from trees.

The branches of an instruction are its identifier, its verb, the names that the verb
takes, and for some verbs any number of argument trees. Identifier, verb and names are
leaves.

Owns: the operations, `decode`, and what is known of a tree that is no instruction.

Does not own: what an operation does.
-/

namespace ListInvocation

inductive Operation where
  /-- Constructs an object and binds it. -/
  | make (target className : String) (arguments : List (Tree String))
  /-- Calls a method. -/
  | call (target member : String) (arguments : List (Tree String))
  /-- Calls a method and binds its result to a symbol. -/
  | callAndAssign (symbol target member : String) (arguments : List (Tree String))
  /-- Adds a path below which classes are searched. -/
  | importPath (path : String)
  /-- Binds a tree to a symbol. -/
  | assign (symbol : String) (value : Tree String)
deriving Repr, DecidableEq

/-- An operation and the identifier under which its result is returned. -/
structure Instruction where
  id : String
  operation : Operation
deriving Repr, DecidableEq

namespace Instruction

mutual

/-- A tree on one line: a leaf's text, or the bracketed texts of the branches. -/
def flatten : Tree String → String
  | .leaf value => value
  | .node _ branches => "[" ++ String.intercalate "," (flattenAll branches) ++ "]"

def flattenAll : List (Tree String) → List String
  | [] => []
  | tree :: trees => flatten tree :: flattenAll trees

end

def rawElements : Tree String → List String
  | .leaf value => [value]
  | .node _ branches => flattenAll branches

/-- The identifier that a tree would have as an instruction, empty without one. -/
def peekId (tree : Tree String) : String :=
  match tree.branches with
  | .leaf id :: _ => id
  | _ => ""

def decodeOperation? : (verb : String) → List (Tree String) → Option Operation
  | "make", .leaf target :: .leaf className :: arguments =>
      some (.make target className arguments)
  | "call", .leaf target :: .leaf member :: arguments =>
      some (.call target member arguments)
  | "callAndAssign", .leaf symbol :: .leaf target :: .leaf member :: arguments =>
      some (.callAndAssign symbol target member arguments)
  | "import", [.leaf path] => some (.importPath path)
  | "assign", [.leaf symbol, value] => some (.assign symbol value)
  | _, _ => none

def ofBranches? : List (Tree String) → Option Instruction
  | .leaf id :: .leaf verb :: rest =>
      (decodeOperation? verb rest).map fun operation => ⟨id, operation⟩
  | _ => none

/-- Decodes a tree; whatever is wrong, the failure names all its elements. -/
def decode (tree : Tree String) : Except Failure Instruction :=
  match ofBranches? tree.branches with
  | some decoded => .ok decoded
  | none => .error (.malformedInstruction (rawElements tree))

end Instruction

end ListInvocation
