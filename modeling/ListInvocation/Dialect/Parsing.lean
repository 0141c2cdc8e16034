import ListInvocation.Tree
import ListInvocation.Value
import ListInvocation.Text.Blank
import ListInvocation.Decimal.Scientific

/-!
Contract: rules that turn an argument tree into a value of a declared type.

A rule accepts some targets and trees and parses them; elements of a list are parsed by
the whole chain again. A text that denotes no value of the target is a failure, never a
default value.

Owns: the type of such rules, the standard ones, and lists that are written in one leaf.

Does not own: the choice of a rule from a chain.
-/

namespace ListInvocation

/-- Something that parses trees for a target type, such as a whole chain of rules. -/
abbrev Parser := ValueType → Tree String → Except Failure TypedValue

/-- A rule that parses the targets and trees it accepts. -/
structure ParseRule where
  accepts : ValueType → Tree String → Bool
  parse : Parser → Parser

namespace Parsing

/-- A parsed value, or the failure that names the target and the whole text. -/
def orFailed (target : ValueType) (text : String) :
    Option TypedValue → Except Failure TypedValue
  | some value => .ok value
  | none => .error (.parseFailed target text)

def lowerAscii (character : Char) : Char :=
  if 'A' ≤ character ∧ character ≤ 'Z' then
    Char.ofNat (character.toNat + ('a'.toNat - 'A'.toNat))
  else
    character

def readBool? (text : List Char) : Option Bool :=
  match String.ofList (text.map lowerAscii) with
  | "true" => some true
  | "false" => some false
  | _ => none

/-- Reads a float: one of three words, or a decimal. -/
def readFloat? (text : List Char) : Option Binary64 :=
  match String.ofList text with
  | "NaN" => some .nan
  | "Infinity" => some .infinity
  | "-Infinity" => some .negativeInfinity
  | _ => Decimal.readBinary64? text

def withoutBrackets (text : List Char) : List Char :=
  match text with
  | '[' :: rest =>
      match rest.reverse with
      | ']' :: inner => inner.reverse
      | _ => text
  | _ => text

def splitAtCommas : List Char → List (List Char)
  | [] => [[]]
  | character :: rest =>
      if character = ',' then [] :: splitAtCommas rest
      else
        match splitAtCommas rest with
        | first :: others => (character :: first) :: others
        | [] => [[character]]

/-- The element texts of a list in one leaf: brackets are optional, elements stand
between commas, and a blank list has none. -/
def splitLeaf (text : String) : List String :=
  let body := Text.trim (withoutBrackets (Text.trim text.toList))
  if body.isEmpty then []
  else (splitAtCommas body).map fun element => String.ofList (Text.trim element)

def elementTrees : Tree String → List (Tree String)
  | .leaf text => (splitLeaf text).map Tree.text
  | .node _ branches => branches

def parseItems (parser : Parser) (element : ValueType) :
    List (Tree String) → Except Failure (List TypedValue)
  | [] => .ok []
  | tree :: trees => do
      let item ← parser element tree
      let items ← parseItems parser element trees
      return item :: items

/-- Texts, and leaves of which the target says nothing. -/
def text : ParseRule where
  accepts target tree := (target == .text || target == .any) && tree.isLeaf
  parse _ target tree :=
    .ok ⟨if target = .any then .any else .text, .text tree.value⟩

def boolean : ParseRule where
  accepts target tree := target == .bool && tree.isLeaf
  parse _ target tree :=
    orFailed target tree.value
      ((readBool? (Text.trim tree.value.toList)).map TypedValue.bool)

def integer : ParseRule where
  accepts target tree := target.isInteger && tree.isLeaf
  parse _ target tree :=
    orFailed target tree.value
      ((Decimal.readInt64? (Text.trim tree.value.toList)).map TypedValue.int)

def float : ParseRule where
  accepts target tree := target == .float && tree.isLeaf
  parse _ target tree :=
    orFailed target tree.value
      ((readFloat? (Text.trim tree.value.toList)).map TypedValue.float)

/-- Lists, element by element through the whole chain. -/
def list : ParseRule where
  accepts target tree :=
    match target with
    | .list _ => true
    | .any => tree.isList
    | _ => false
  parse parser target tree :=
    let element := target.element?.getD .any
    (parseItems parser element (elementTrees tree)).map (TypedValue.list element)

def standard : List ParseRule :=
  [text, boolean, integer, float, list]

end Parsing

end ListInvocation
