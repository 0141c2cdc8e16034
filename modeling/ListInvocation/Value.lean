import ListInvocation.Binary64.Basic
import ListInvocation.Failure

/-!
Contract: runtime values and the types they are declared with.

A declared type travels beside each value, so that a rule can tell an absent number
from an absent text, and an absent value from a call that returns nothing.

Owns: the types `Value` and `TypedValue`, the views of a value as one kind, and
equality in which numbers are compared by value.

Does not own: text forms of values.
-/

namespace ListInvocation

mutual

/-- A runtime value; `null` is the absent one. -/
inductive Value where
  | null
  | bool (value : Bool)
  | int (value : Int64)
  | float (value : Binary64)
  | text (value : String)
  | list (items : List TypedValue)
  | failure (failure : Failure)
deriving Repr

structure TypedValue where
  declared : ValueType
  value : Value
deriving Repr

end

instance : Inhabited Value := ⟨.null⟩

instance : Inhabited TypedValue := ⟨⟨default, default⟩⟩

namespace Value

def isNull : Value → Bool
  | .null => true
  | _ => false

def asBool? : Value → Option Bool
  | .bool value => some value
  | _ => none

def asInt? : Value → Option Int64
  | .int value => some value
  | _ => none

/-- A float as it is, and an integer as the nearest float. -/
def asFloat? : Value → Option Binary64
  | .float value => some value
  | .int value => some (.ofInt value.toInt)
  | _ => none

def asText? : Value → Option String
  | .text value => some value
  | _ => none

def asList? : Value → Option (List TypedValue)
  | .list items => some items
  | _ => none

mutual

def nesting : Value → Nat
  | .list items => nestingAll items + 1
  | _ => 0

def nestingAll : List TypedValue → Nat
  | [] => 0
  | item :: items => max (nestingTyped item) (nestingAll items)

def nestingTyped : TypedValue → Nat
  | ⟨_, value⟩ => nesting value

end

mutual

/-- Equality of values; floats are compared as numbers, so no list that holds a NaN
equals itself. -/
def same : (left right : Value) → Bool
  | .null, .null => true
  | .bool left, .bool right => left == right
  | .int left, .int right => left == right
  | .float left, .float right => left.numericallyEqual right
  | .text left, .text right => left == right
  | .list left, .list right => sameAll left right
  | .failure left, .failure right => left == right
  | _, _ => false

def sameAll : (left right : List TypedValue) → Bool
  | [], [] => true
  | left :: lefts, right :: rights => sameTyped left right && sameAll lefts rights
  | _, _ => false

/-- Typed values are equal when their types and their values are. -/
def sameTyped : (left right : TypedValue) → Bool
  | ⟨leftType, left⟩, ⟨rightType, right⟩ => leftType == rightType && same left right

end

end Value

namespace TypedValue

def void : TypedValue := ⟨.void, .null⟩

def null (declared : ValueType) : TypedValue := ⟨declared, .null⟩

def bool (value : Bool) : TypedValue := ⟨.bool, .bool value⟩

def int (value : Int64) : TypedValue := ⟨.int, .int value⟩

def float (value : Binary64) : TypedValue := ⟨.float, .float value⟩

def text (value : String) : TypedValue := ⟨.text, .text value⟩

/-- A list whose type is given by the type of its elements. -/
def list (element : ValueType) (items : List TypedValue) : TypedValue :=
  ⟨.list element, .list items⟩

def failure (failure : Failure) : TypedValue := ⟨.error, .failure failure⟩

def isVoid (value : TypedValue) : Bool :=
  value.declared == .void

def isNull (value : TypedValue) : Bool :=
  value.value.isNull

def nesting (value : TypedValue) : Nat :=
  value.value.nesting

def same (left right : TypedValue) : Bool :=
  Value.sameTyped left right

end TypedValue

end ListInvocation
