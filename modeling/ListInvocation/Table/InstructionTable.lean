import ListInvocation.Table.Report
import ListInvocation.Text.Blank

/-!
Contract: tables whose rows are plain instructions.

Owns: the mark of each row, and runs of all tables.

Does not own: script tables.
-/

namespace ListInvocation.Table.InstructionTable

variable [Text.Alphabet]

def keyword : String := "instructions"

/-- The mark of an outcome: right, or an exception with the text of the result. -/
def markOf (outcome : Outcome) : Mark :=
  match outcome.failure? with
  | some _ => .exception (display outcome.result)
  | none => .right

def runRows (table : Nat) : (row : Nat) → List (Tree String) → Progress → Progress
  | _, [], progress => progress
  | row, instruction :: rows, progress =>
      let (outcome, session) := progress.session.executeInstruction instruction
      runRows table (row + 1) rows (progress.next session [(⟨table, row, 0⟩, markOf outcome)])

/-- Whether the first cell of a header, list or not, is the keyword. -/
def isHeader (header : Tree String) : Bool :=
  (header.valueAt? [0]).any fun value => Text.trimmed value == keyword

def runTable (table : Nat) : List (Tree String) → Progress → Progress
  | [], progress => progress
  | header :: rows, progress =>
      if isHeader header then runRows table 1 rows progress
      else progress.markAll [(⟨table, 0, 0⟩, .ignored)]

def runTables : (table : Nat) → List (Tree String) → Progress → Progress
  | _, [], progress => progress
  | table, rows :: tables, progress =>
      runTables (table + 1) tables (runTable table rows.branches progress)

def accepts (tables : Tree String) : Bool :=
  (firstCell? tables).any fun cell => Text.trimmed cell == keyword

def run (registry : Registry) (dialect : Dialect) (tables : Tree String) : Report :=
  (runTables 0 tables.branches (.start registry dialect)).finish

end ListInvocation.Table.InstructionTable
