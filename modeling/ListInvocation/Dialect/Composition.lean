import ListInvocation.Tree
import ListInvocation.Value
import ListInvocation.NumberFormat

/-!
Contract: rules that turn a result into the tree that is sent back.

A rule accepts some values and composes them; parts of a value are composed by the
whole chain again. A rule applied to a value of another kind falls back to the plain
text of the value.

Owns: the type of such rules, the standard ones, and the sentinels of absent results.

Does not own: the choice of a rule from a chain.
-/

namespace ListInvocation

/-- Something that composes values, such as a whole chain of rules. -/
abbrev Composer := TypedValue → Except Failure (Tree String)

/-- A rule that composes the values it accepts. -/
structure ComposeRule where
  accepts : TypedValue → Bool
  compose : NumberFormat → Composer → Composer

namespace Composition

/-- The result of a call that returns nothing. -/
def voidSentinel : String := "/__VOID__/"

/-- The text of an absent value. -/
def nullSentinel : String := "null"

def plainBool (value : Bool) : String :=
  if value then "True" else "False"

mutual

def plainText (format : NumberFormat) : Value → String
  | .null => nullSentinel
  | .bool value => plainBool value
  | .int value => format.renderInt value
  | .float value => format.renderFloat value
  | .text value => value
  | .list items => "[" ++ String.intercalate ", " (plainTexts format items) ++ "]"
  | .failure failure => failure.message

def plainTexts (format : NumberFormat) : List TypedValue → List String
  | [] => []
  | item :: items => plainTextTyped format item :: plainTexts format items

/-- The plain text of one item, whatever its declared type. -/
def plainTextTyped (format : NumberFormat) : TypedValue → String
  | ⟨_, value⟩ => plainText format value

end

/-- The fallback: a sentinel or the plain text, always a leaf. -/
def composePlain (format : NumberFormat) (value : TypedValue) : Tree String :=
  if value.isVoid then .text voidSentinel else .text (plainText format value.value)

def composeItems (composer : Composer) : List TypedValue → Except Failure (List (Tree String))
  | [] => .ok []
  | item :: items => do
      let tree ← composer item
      let trees ← composeItems composer items
      return tree :: trees

def void : ComposeRule where
  accepts value := value.isVoid
  compose _ _ _ := .ok (.text voidSentinel)

def null : ComposeRule where
  accepts value := value.isNull
  compose _ _ _ := .ok (.text nullSentinel)

/-- Failures, as the text that callers recognise. -/
def failure : ComposeRule where
  accepts value :=
    match value.value with
    | .failure _ => true
    | _ => false
  compose format _ value :=
    match value.value with
    | .failure failure => .ok (.text failure.exceptionText)
    | _ => .ok (composePlain format value)

def boolean : ComposeRule where
  accepts value :=
    match value.value with
    | .bool _ => true
    | _ => false
  compose format _ value :=
    match value.value with
    | .bool value => .ok (.text (if value then "true" else "false"))
    | _ => .ok (composePlain format value)

/-- Lists, item by item through the whole chain. -/
def list : ComposeRule where
  accepts value :=
    match value.value with
    | .list _ => true
    | _ => false
  compose format composer value :=
    match value.value with
    | .list items => (composeItems composer items).map Tree.list
    | _ => .ok (composePlain format value)

/-- Everything else, as plain text. -/
def plain : ComposeRule where
  accepts _ := true
  compose format _ value := .ok (composePlain format value)

def standard : List ComposeRule :=
  [void, null, failure, boolean, list, plain]

end Composition

end ListInvocation
