import ListInvocation.Toml.Scalar

/-!
Contract: the tables of a TOML document and how its lines fill them.

A table is opened by a header, arises above a header or from a dotted key, or is
written in one piece. What a later line may add to a table depends on how it arose, so
that no table is defined twice.

Owns: items, tables, and the insertion of keys and headers.

Does not own: the text of a document.
-/

namespace ListInvocation.Toml

inductive TableOrigin where
  /-- From a header of its own. -/
  | header
  /-- Above the table of a header. -/
  | implied
  /-- From a dotted key. -/
  | dotted
  /-- Written in one piece. -/
  | inline
deriving Repr, DecidableEq

inductive Item where
  | text (value : String)
  | scalar (value : Scalar)
  /-- An array written in one piece. -/
  | array (items : List Item)
  /-- The tables of repeated headers. -/
  | tables (elements : List (List (String × Item)))
  | table (origin : TableOrigin) (entries : List (String × Item))

/-- The entries of a table in the order in which they arose. -/
abbrev Entries := List (String × Item)

def replaceEntry (key : String) (item : Item) (entries : Entries) : Entries :=
  entries.map fun entry => if entry.1 = key then (key, item) else entry

inductive Descent where
  /-- To the table of the last header. -/
  | current
  /-- To the parent of a new header's table. -/
  | header
  /-- To the table that a dotted key names. -/
  | dotted
deriving Repr, DecidableEq

/-- Whether a path may lead into a table; the last table of a dotted key must itself
stem from dotted keys. -/
def Descent.enters (descent : Descent) (isLast : Bool) : TableOrigin → Bool
  | .inline => false
  | .header => descent != .dotted
  | .implied => descent != .dotted || !isLast
  | .dotted => true

def Descent.origin : Descent → TableOrigin
  | .dotted => .dotted
  | .current | .header => .implied

/-- Changes the entries of the table at the end of a path. Repeated headers are followed
to their last table. -/
def changeAt (descent : Descent) :
    List String → (Entries → Option Entries) → Entries → Option Entries
  | [], change, entries => change entries
  | key :: path, change, entries =>
      match entries.lookup key with
      | none => do
          let inner ← changeAt descent path change []
          return entries ++ [(key, .table descent.origin inner)]
      | some (.table origin inner) => do
          if descent.enters path.isEmpty origin then
            let inner ← changeAt descent path change inner
            return replaceEntry key (.table origin inner) entries
          else
            none
      | some (.tables elements) =>
          match elements.getLast? with
          | none => none
          | some last => do
              if descent.enters path.isEmpty .header then
                let inner ← changeAt descent path change last
                return replaceEntry key (.tables (elements.dropLast ++ [inner])) entries
              else
                none
      | some _ => none

def insertNew (key : String) (item : Item) (entries : Entries) : Option Entries :=
  if (entries.lookup key).isSome then none else some (entries ++ [(key, item)])

/-- Opens the table of a header; it must be new or only implied so far. -/
def openTable (key : String) (entries : Entries) : Option Entries :=
  match entries.lookup key with
  | none => some (entries ++ [(key, .table .header [])])
  | some (.table .implied inner) => some (replaceEntry key (.table .header inner) entries)
  | some _ => none

/-- Opens one more table of a repeated header. -/
def openElement (key : String) (entries : Entries) : Option Entries :=
  match entries.lookup key with
  | none => some (entries ++ [(key, .tables [[]])])
  | some (.tables elements) =>
      some (replaceEntry key (.tables (elements ++ [[]])) entries)
  | some _ => none

/-- Applies a change of the last key of a path in the table above it. -/
def atLastKey (descent : Descent) (path : List String)
    (change : String → Entries → Option Entries) (entries : Entries) : Option Entries :=
  match path.getLast? with
  | none => none
  | some key => changeAt descent path.dropLast (change key) entries

def insertDotted (path : List String) (item : Item) : Entries → Option Entries :=
  atLastKey .dotted path fun key => insertNew key item

end ListInvocation.Toml
