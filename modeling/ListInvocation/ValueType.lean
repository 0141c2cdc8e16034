/-!
Contract: the types that values are declared with.

Owns: the type `ValueType`, its classification and its name.

Does not own: values, or which rule handles which type.
-/

namespace ListInvocation

inductive ValueType where
  /-- The type of calls that return nothing. -/
  | void
  /-- A type that says nothing about its values. -/
  | any
  | bool
  | int
  | float
  | text
  | list (element : ValueType)
  | error
deriving Repr, DecidableEq, Inhabited

namespace ValueType

def isInteger : ValueType → Bool
  | .int => true
  | _ => false

def isNumeric : ValueType → Bool
  | .int | .float => true
  | _ => false

def element? : ValueType → Option ValueType
  | .list element => some element
  | _ => none

def name : ValueType → String
  | .void => "void"
  | .any => "any"
  | .bool => "bool"
  | .int => "int"
  | .float => "float"
  | .text => "text"
  | .list element => "list<" ++ element.name ++ ">"
  | .error => "error"

def nesting : ValueType → Nat
  | .list element => element.nesting + 1
  | _ => 0

end ValueType

end ListInvocation
