/-!
Contract: the ordered trees in which instructions, results and test tables travel.

A tree is a leaf or a list node. A list node stays a list when it has no
branches, so the empty list and the empty text are different trees.

Owns:
- the type `Tree`, its accessors, builders and path resolution;
- decidable structural equality of trees.

Does not own: the wire text of a tree, or what a tree means as an instruction.
-/

namespace ListInvocation

/-- An ordered tree that carries a value at every node. -/
inductive Tree (α : Type) where
  /-- A node without branches that is not a list. -/
  | leaf (value : α)
  /-- A list node with its own value and its branches in order. -/
  | node (value : α) (branches : List (Tree α))
deriving Repr, Inhabited

namespace Tree

variable {α β : Type}

section Equality

variable [DecidableEq α]

mutual

def decideEq : (left right : Tree α) → Decidable (left = right)
  | .leaf left, .leaf right =>
      if same : left = right then isTrue (by rw [same])
      else isFalse (fun equal => same (Tree.leaf.inj equal))
  | .leaf _, .node _ _ => isFalse (fun equal => nomatch equal)
  | .node _ _, .leaf _ => isFalse (fun equal => nomatch equal)
  | .node left leftBranches, .node right rightBranches =>
      if same : left = right then
        match decideEqAll leftBranches rightBranches with
        | isTrue branches => isTrue (by rw [same, branches])
        | isFalse different => isFalse (fun equal => different (Tree.node.inj equal).2)
      else isFalse (fun equal => same (Tree.node.inj equal).1)

def decideEqAll : (left right : List (Tree α)) → Decidable (left = right)
  | [], [] => isTrue rfl
  | [], _ :: _ => isFalse (fun equal => nomatch equal)
  | _ :: _, [] => isFalse (fun equal => nomatch equal)
  | left :: lefts, right :: rights =>
      match decideEq left right with
      | isTrue head =>
          match decideEqAll lefts rights with
          | isTrue tail => isTrue (by rw [head, tail])
          | isFalse different => isFalse (fun equal => different (List.cons.inj equal).2)
      | isFalse different => isFalse (fun equal => different (List.cons.inj equal).1)

end

end Equality

instance [DecidableEq α] : DecidableEq (Tree α) := decideEq

def value : Tree α → α
  | .leaf value => value
  | .node value _ => value

def branches : Tree α → List (Tree α)
  | .leaf _ => []
  | .node _ branches => branches

def isLeaf : Tree α → Bool
  | .leaf _ => true
  | .node _ _ => false

def isList (tree : Tree α) : Bool :=
  !tree.isLeaf

/-- Appends a branch; the root is a list afterwards. -/
def withBranch (tree branch : Tree α) : Tree α :=
  .node tree.value (tree.branches ++ [branch])

def withLeaf (tree : Tree α) (value : α) : Tree α :=
  tree.withBranch (.leaf value)

/-- Follows one branch index per path element; the empty path is the tree itself. -/
def branchAt? : Tree α → List Nat → Option (Tree α)
  | tree, [] => some tree
  | tree, index :: path =>
      match tree.branches[index]? with
      | some branch => branch.branchAt? path
      | none => none

def valueAt? (tree : Tree α) (path : List Nat) : Option α :=
  (tree.branchAt? path).map value

mutual

def map (f : α → β) : Tree α → Tree β
  | .leaf value => .leaf (f value)
  | .node value branches => .node (f value) (mapAll f branches)

def mapAll (f : α → β) : List (Tree α) → List (Tree β)
  | [] => []
  | tree :: trees => map f tree :: mapAll f trees

end

mutual

def nesting : Tree α → Nat
  | .leaf _ => 0
  | .node _ branches => nestingAll branches + 1

def nestingAll : List (Tree α) → Nat
  | [] => 0
  | tree :: trees => max (nesting tree) (nestingAll trees)

end

/-- A list node whose own value is the default one. -/
def list [Inhabited α] (branches : List (Tree α)) : Tree α :=
  .node default branches

abbrev text (value : String) : Tree String :=
  .leaf value

def textList (values : List String) : Tree String :=
  list (values.map text)

def branchTexts (tree : Tree String) : List String :=
  tree.branches.map value

@[simp] theorem value_leaf (value : α) : (Tree.leaf value).value = value := rfl

@[simp] theorem value_node (value : α) (branches : List (Tree α)) :
    (Tree.node value branches).value = value := rfl

@[simp] theorem branches_leaf (value : α) : (Tree.leaf value).branches = [] := rfl

@[simp] theorem branches_node (value : α) (branches : List (Tree α)) :
    (Tree.node value branches).branches = branches := rfl

@[simp] theorem branches_list [Inhabited α] (branches : List (Tree α)) :
    (Tree.list branches).branches = branches := rfl

@[simp] theorem isLeaf_leaf (value : α) : (Tree.leaf value).isLeaf = true := rfl

@[simp] theorem isLeaf_node (value : α) (branches : List (Tree α)) :
    (Tree.node value branches).isLeaf = false := rfl

theorem mapAll_eq_map (f : α → β) (trees : List (Tree α)) :
    mapAll f trees = trees.map (map f) := by
  induction trees with
  | nil => rfl
  | cons tree trees inductionHypothesis => simp [mapAll, inductionHypothesis]

end Tree

end ListInvocation
