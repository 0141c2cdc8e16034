import ListInvocation.Table.Report
import ListInvocation.Text.Blank

/-!
Contract: script tables, whose rows act on one object.

The header names the class of the object and its constructor's arguments. Each row
below is a note, a check of a result, a demand for a truth value, a value to show, or
a plain action.

Owns: the kinds of rows, the marks that each makes, and runs of all tables.

Does not own: tables of plain instructions.
-/

namespace ListInvocation.Table

/-- The identifier of the object that a script acts on. -/
def scriptActor : String := "scriptTableActor"

def scriptKeyword : String := "script"

def cellWord (cell : Tree String) : String :=
  Text.trimmed cell.value

inductive ScriptRow where
  /-- Nothing. -/
  | note
  /-- A call whose result is compared with the last cell. -/
  | check (negate : Bool) (member : String) (arguments : List (Tree String))
      (expected : Tree String)
  /-- A call whose result must be the given truth value. -/
  | ensure (expect : Bool) (member : String) (arguments : List (Tree String))
  /-- A call whose result is shown. -/
  | present (member : String) (arguments : List (Tree String))
  /-- A call whose result matters only if it is a truth value. -/
  | action (member : String) (arguments : List (Tree String))
  /-- A keyword without a call. -/
  | invalid

namespace ScriptRow

variable [Text.Alphabet]

/-- Whether the first word of a row makes it a note. -/
def isNoteWord (word : String) : Bool :=
  word.isEmpty || word == "note" || word.toList.head? == some '#'

def withMember (row : String → List (Tree String) → ScriptRow) :
    List (Tree String) → ScriptRow
  | [] => .invalid
  | member :: arguments => row member.value arguments

/-- A check of the call in all cells but the last. -/
def checkOf (negate : Bool) (cells : List (Tree String)) : ScriptRow :=
  match cells.getLast? with
  | none => .invalid
  | some expected =>
      withMember (fun member arguments => .check negate member arguments expected)
        cells.dropLast

/-- The kind of a row, from its first word. -/
def ofCells : List (Tree String) → ScriptRow
  | [] => .note
  | first :: rest =>
      let word := cellWord first
      if isNoteWord word then .note
      else
        match word with
        | "check" => checkOf false rest
        | "check not" => checkOf true rest
        | "ensure" => withMember (.ensure true) rest
        | "reject" => withMember (.ensure false) rest
        | "show" => withMember .present rest
        | _ => .action first.value rest

end ScriptRow

namespace Script

variable [Text.Alphabet]

def failureText (session : Session) (failure : Failure) : String :=
  display (session.composeFailure failure)

def composedText (session : Session) (value : TypedValue) : String :=
  match session.dialect.compose value with
  | .ok tree => display tree
  | .error failure => failureText session failure

def checkMark (session : Session) (negate : Bool) (value : TypedValue)
    (expected : Tree String) : Mark :=
  match session.dialect.compare value expected with
  | .error failure => .exception (failureText session failure)
  | .ok matched =>
      if matched = negate then .wrong (composedText session value) else .right

def ensureMark (session : Session) (expect : Bool) (value : TypedValue) : Mark :=
  if value.value.asBool? = some expect then .right
  else .wrong (composedText session value)

/-- The mark of an action, if its result is a truth value. -/
def actionMark? (value : TypedValue) : Option Mark :=
  match value.value.asBool? with
  | some true => some .right
  | some false => some (.wrong "false")
  | none => none

/-- The mark of a row and the cell it belongs to. -/
abbrev RowMark := Option (Nat × Mark)

/-- Calls a member of the actor; a failure becomes an exception at the given cell. -/
def callActor (session : Session) (cell : Nat) (member : String)
    (arguments : List (Tree String)) (mark? : Session → TypedValue → Option Mark) :
    RowMark × Session :=
  let (result, session) := session.call scriptActor member arguments
  let mark? :=
    match result with
    | .ok value => mark? session value
    | .error failure => some (.exception (failureText session failure))
  (mark?.map fun mark => (cell, mark), session)

def runRow (session : Session) (cells : List (Tree String)) : RowMark × Session :=
  match ScriptRow.ofCells cells with
  | .note => (none, session)
  | .invalid =>
      (some (0, .exception s!"unrecognized script row with {cells.length} cell(s)"), session)
  | .check negate member arguments expected =>
      callActor session (cells.length - 1) member arguments fun session value =>
        some (checkMark session negate value expected)
  | .ensure expect member arguments =>
      callActor session 0 member arguments fun session value =>
        some (ensureMark session expect value)
  | .present member arguments =>
      callActor session cells.length member arguments fun session value =>
        some (.shown (composedText session value))
  | .action member arguments =>
      callActor session 0 member arguments fun _ value => actionMark? value

def runRows (table : Nat) : (row : Nat) → List (Tree String) → Progress → Progress
  | _, [], progress => progress
  | row, cells :: rows, progress =>
      let (mark?, session) := runRow progress.session cells.branches
      let marks := mark?.toList.map fun (cell, mark) => (⟨table, row, cell⟩, mark)
      runRows table (row + 1) rows (progress.next session marks)

/-- The marks of a table whose actor could not be made: an exception at the class, and
every row ignored. -/
def headerFailed (table : Nat) (message : String) (rows : List (Tree String)) :
    List (CellRef × Mark) :=
  (⟨table, 0, 1⟩, .exception message)
    :: (List.range rows.length).map fun row => (⟨table, row + 1, 0⟩, .ignored)

def makeActor (session : Session) : List (Tree String) → Except Failure Unit × Session
  | className :: arguments => session.make scriptActor className.value arguments
  | [] => (.ok (), session)

def runTable (table : Nat) (rows : List (Tree String)) (progress : Progress) : Progress :=
  match rows with
  | [] => progress
  | header :: rows =>
      match header.branches with
      | [] => progress.markAll [(⟨table, 0, 0⟩, .ignored)]
      | keyword :: actor =>
          if cellWord keyword ≠ scriptKeyword then
            progress.markAll [(⟨table, 0, 0⟩, .ignored)]
          else
            let (made, session) := makeActor progress.session actor
            match made with
            | .ok () => runRows table 1 rows (progress.next session [])
            | .error failure =>
                progress.next session (headerFailed table (failureText session failure) rows)

def runTables : (table : Nat) → List (Tree String) → Progress → Progress
  | _, [], progress => progress
  | table, rows :: tables, progress =>
      runTables (table + 1) tables (runTable table rows.branches progress)

def accepts (tables : Tree String) : Bool :=
  (firstCell? tables).any fun cell => Text.trimmed cell == scriptKeyword

def run (registry : Registry) (dialect : Dialect) (tables : Tree String) : Report :=
  (runTables 0 tables.branches (.start registry dialect)).finish

end Script

end ListInvocation.Table
