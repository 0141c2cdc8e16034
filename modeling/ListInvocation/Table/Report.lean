import ListInvocation.Session

/-!
Contract: the report of a test run, cell by cell.

A run counts each mark and tells it at once; the counts are told at the end.

Owns: marks, counts with their form as a value, the notices that a run sends, the progress
of a run, and what a reader of the notices knows afterwards.

Does not own: how a table is run.
-/

namespace ListInvocation.Table

inductive Mark where
  | right
  | wrong (actual : String)
  | ignored
  | exception (message : String)
  | shown (value : String)
deriving Repr, DecidableEq

/-- The position of a cell: table, row and cell, each from zero. -/
structure CellRef where
  table : Nat
  row : Nat
  cell : Nat
deriving Repr, DecidableEq

/-- The numbers of marks of four kinds, in 64 bits. -/
structure Counts where
  right : UInt64
  wrong : UInt64
  ignores : UInt64
  exceptions : UInt64
deriving Repr, DecidableEq

namespace Counts

def zero : Counts := ⟨0, 0, 0, 0⟩

/-- Counts one more mark; shown values are not counted. -/
def tally (counts : Counts) : Mark → Counts
  | .right => { counts with right := counts.right + 1 }
  | .wrong _ => { counts with wrong := counts.wrong + 1 }
  | .ignored => { counts with ignores := counts.ignores + 1 }
  | .exception _ => { counts with exceptions := counts.exceptions + 1 }
  | .shown _ => counts

def ofMarks (marks : List Mark) : Counts :=
  marks.foldl tally zero

def passed (counts : Counts) : Bool :=
  counts.wrong == 0 && counts.exceptions == 0

def toList (counts : Counts) : List UInt64 :=
  [counts.right, counts.wrong, counts.ignores, counts.exceptions]

/-- A count as a signed integer, the greatest one when it does not fit. -/
def clamped (count : UInt64) : Int64 :=
  if (count.toNat : Int) ≤ Int64.maxValue.toInt then Int64.ofNat count.toNat
  else Int64.maxValue

def toTypedValue (counts : Counts) : TypedValue :=
  .list .int (counts.toList.map fun count => .int (clamped count))

def countOf? (item : TypedValue) : Option UInt64 := do
  let number ← item.value.asInt?
  if 0 ≤ number.toInt then some (UInt64.ofNat number.toInt.toNat) else none

def ofTypedValue? (value : TypedValue) : Option Counts :=
  match value.value.asList? with
  | some [right, wrong, ignores, exceptions] => do
      return ⟨← countOf? right, ← countOf? wrong, ← countOf? ignores, ← countOf? exceptions⟩
  | _ => none

end Counts

inductive Notice where
  | cell (position : CellRef) (mark : Mark)
  | counts (counts : Counts)
deriving Repr, DecidableEq

structure Report where
  notices : List Notice
  result : Except Failure TypedValue

namespace Report

def failed (failure : Failure) : Report :=
  ⟨[], .error failure⟩

def cells (report : Report) : List (CellRef × Mark) :=
  report.notices.filterMap fun
    | .cell position mark => some (position, mark)
    | .counts _ => none

def markAt? (report : Report) (position : CellRef) : Option Mark :=
  report.cells.lookup position

def counts? (report : Report) : Option Counts :=
  (report.notices.filterMap fun
    | .counts counts => some counts
    | .cell _ _ => none).getLast?

end Report

/-- What a run has told so far, and its running counts. -/
structure Reporter where
  notices : List Notice
  counts : Counts

namespace Reporter

def start : Reporter := ⟨[], .zero⟩

def mark (reporter : Reporter) (position : CellRef) (mark : Mark) : Reporter :=
  ⟨reporter.notices ++ [.cell position mark], reporter.counts.tally mark⟩

def markAll (reporter : Reporter) (marks : List (CellRef × Mark)) : Reporter :=
  marks.foldl (fun reporter mark => reporter.mark mark.1 mark.2) reporter

/-- Tells the counts; they are the result as well. -/
def finish (reporter : Reporter) : Report :=
  ⟨reporter.notices ++ [.counts reporter.counts], .ok reporter.counts.toTypedValue⟩

end Reporter

/-- How far a run has come: the state of its session, and what it has reported. -/
structure Progress where
  session : Session
  reporter : Reporter

namespace Progress

def start (registry : Registry) (dialect : Dialect) : Progress :=
  ⟨.start registry dialect, .start⟩

def next (progress : Progress) (session : Session) (marks : List (CellRef × Mark)) :
    Progress :=
  ⟨session, progress.reporter.markAll marks⟩

def markAll (progress : Progress) (marks : List (CellRef × Mark)) : Progress :=
  progress.next progress.session marks

/-- The report of a run that has come to its end. -/
def finish (progress : Progress) : Report :=
  progress.reporter.finish

end Progress

mutual

def display : Tree String → String
  | .leaf value => value
  | .node _ branches => "[" ++ String.intercalate ", " (displayAll branches) ++ "]"

def displayAll : List (Tree String) → List String
  | [] => []
  | tree :: trees => display tree :: displayAll trees

end

def firstCell? (tables : Tree String) : Option String :=
  match tables.branchAt? [0, 0, 0] with
  | some (.leaf value) => some value
  | _ => none

end ListInvocation.Table
