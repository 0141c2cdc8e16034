import ListInvocation.Text.CharacterSet

/-!
Contract: tables of named sets of characters.

Owns: the type of such tables and the look-up of a name.

Does not own: the names that a query may be written with.
-/

namespace ListInvocation.Unicode

open Text (CharacterSet)

/-- Sets of characters with their names. A name is in lower case and has no blanks,
underscores or hyphens; a set is given by its runs. -/
structure PropertyTable where
  entries : List (List String × String)

namespace PropertyTable

def find? (table : PropertyTable) (name : String) : Option CharacterSet :=
  (table.entries.find? fun entry => entry.1.contains name).map fun entry =>
    CharacterSet.ofRuns entry.2

def unionOf (table : PropertyTable) (names : List String) : CharacterSet :=
  CharacterSet.unionAll (names.filterMap table.find?)

end PropertyTable

end ListInvocation.Unicode
