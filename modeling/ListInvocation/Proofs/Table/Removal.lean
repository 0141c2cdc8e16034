import ListInvocation.Fixture.Sample
import ListInvocation.Proofs.Dialect.Parsing
import ListInvocation.Proofs.Table.Placement
import ListInvocation.Platform

/-!
Contract: a table that runs no row disturbs no other table.

A script without its actor, and a table that is no script, leave the session as they find it.
So the tables behind them are run as if they were not there, and only the indices differ.

Owns: tables that run no row with the marks they make, the marks of tables one place further
on, sessions with other rules for calls, and the removal of a table from a run.

Does not own: why an actor cannot be made.
-/

namespace ListInvocation

/-! ## Other rules for calls -/

namespace Dialect

variable (dialect : Dialect) (rules : List InvokeRule)

def withInvokeRules : Dialect :=
  { dialect with invokeRules := rules }

theorem composeWithin_withInvokeRules (levels : Nat) :
    (dialect.withInvokeRules rules).composeWithin levels = dialect.composeWithin levels := by
  induction levels with
  | zero => rfl
  | succ levels inductionHypothesis =>
      funext value
      simp only [composeWithin, inductionHypothesis]
      rfl

theorem compose_withInvokeRules :
    (dialect.withInvokeRules rules).compose = dialect.compose := by
  funext value
  simp only [compose, composeWithin_withInvokeRules]

theorem parseWithin_withInvokeRules (levels : Nat) :
    (dialect.withInvokeRules rules).parseWithin levels = dialect.parseWithin levels := by
  induction levels with
  | zero => rfl
  | succ levels inductionHypothesis =>
      funext target tree
      simp only [parseWithin, inductionHypothesis]
      rfl

theorem parse_withInvokeRules : (dialect.withInvokeRules rules).parse = dialect.parse := by
  funext target tree
  simp only [parse, parseWithin_withInvokeRules]

end Dialect

/-- The same session with other rules for calls; without rules no call reaches a method. -/
def Session.withInvokeRules (session : Session) (rules : List InvokeRule) : Session :=
  { session with dialect := session.dialect.withInvokeRules rules }

namespace Session

variable (session : Session) (rules : List InvokeRule)

/-- Objects are made without any call. -/
theorem construct_withInvokeRules [Text.Alphabet] (className : String)
    (arguments : List (Tree String)) :
    (session.withInvokeRules rules).construct className arguments =
      session.construct className arguments := by
  have parser : (session.withInvokeRules rules).dialect.parseArguments =
      session.dialect.parseArguments := by
    funext parameters trees
    rw [Dialect.parseArguments_eq_mapM, Dialect.parseArguments_eq_mapM]
    simp only [withInvokeRules, Dialect.parse_withInvokeRules]
  unfold construct
  rw [parser]
  rfl

theorem composeFailure_withInvokeRules (failure : Failure) :
    (session.withInvokeRules rules).composeFailure failure = session.composeFailure failure := by
  unfold composeFailure
  simp only [withInvokeRules, Dialect.compose_withInvokeRules]

end Session

namespace Table

/-! ## One place further on -/

def CellRef.advance (position : CellRef) : CellRef :=
  { position with table := position.table + 1 }

/-- The position where a table was taken out. -/
def CellRef.closeGap (index : Nat) (position : CellRef) : CellRef :=
  if index < position.table then { position with table := position.table - 1 } else position

/-- Marks without those of one table, which leaves no gap. -/
def withoutTable (index : Nat) (marks : List (CellRef × Mark)) : List (CellRef × Mark) :=
  (marks.filter fun cell => cell.1.table ≠ index).map (Prod.map (.closeGap index) id)

section WithoutTable

variable {index : Nat} {marks : List (CellRef × Mark)}

theorem withoutTable_append (front back : List (CellRef × Mark)) :
    withoutTable index (front ++ back) = withoutTable index front ++ withoutTable index back := by
  rw [withoutTable, List.filter_append, List.map_append]
  rfl

theorem withoutTable_own (own : ∀ cell ∈ marks, cell.1.table = index) :
    withoutTable index marks = [] := by
  have none : marks.filter (fun cell => cell.1.table ≠ index) = [] := by
    rw [List.filter_eq_nil_iff]
    intro cell member
    simp [own cell member]
  rw [withoutTable, none]
  rfl

theorem withoutTable_front (before : ∀ cell ∈ marks, cell.1.table < index) :
    withoutTable index marks = marks := by
  have all : marks.filter (fun cell => cell.1.table ≠ index) = marks :=
    List.filter_eq_self.mpr fun cell member => decide_eq_true (Nat.ne_of_lt (before cell member))
  have stay : ∀ cell ∈ marks, Prod.map (CellRef.closeGap index) id cell = id cell := by
    intro cell member
    exact Prod.ext (if_neg (Nat.lt_asymm (before cell member))) rfl
  rw [withoutTable, all, List.map_congr_left stay, List.map_id]

/-- Marks behind a table come one place nearer without it. -/
theorem withoutTable_back (behind : ∀ cell ∈ marks, index ≤ cell.1.table) :
    withoutTable index (marks.map (Prod.map .advance id)) = marks := by
  have all : (marks.map (Prod.map CellRef.advance id)).filter
      (fun cell => cell.1.table ≠ index) = marks.map (Prod.map .advance id) := by
    refine List.filter_eq_self.mpr (List.forall_mem_map.mpr fun cell member => ?_)
    exact decide_eq_true (Nat.ne_of_gt (Nat.lt_succ_of_le (behind cell member)))
  have back : ∀ cell ∈ marks,
      (Prod.map (CellRef.closeGap index) id ∘ Prod.map CellRef.advance id) cell = id cell := by
    intro cell member
    exact Prod.ext (if_pos (Nat.lt_succ_of_le (behind cell member))) rfl
  rw [withoutTable, all, List.map_map, List.map_congr_left back, List.map_id]

end WithoutTable

variable [Text.Alphabet]

namespace Script

variable (table row index : Nat) (session : Session)

theorem rowMarks_succ (cells : List (Tree String)) :
    rowMarks (table + 1) row session cells =
      (rowMarks table row session cells).map (Prod.map .advance id) := by
  rw [rowMarks, rowMarks, List.map_map]
  rfl

theorem marksOfRows_succ (rows : List (Tree String)) :
    marksOfRows (table + 1) row session rows =
      (marksOfRows table row session rows).map (Prod.map .advance id) := by
  induction rows generalizing row session with
  | nil => rfl
  | cons cells rows inductionHypothesis =>
      rw [marksOfRows, marksOfRows, List.map_append, rowMarks_succ, inductionHypothesis]

theorem marksOfTable_succ (rows : List (Tree String)) :
    marksOfTable (index + 1) session rows =
      (marksOfTable index session rows).map (Prod.map .advance id) := by
  unfold marksOfTable
  cases opening session rows with
  | empty => rfl
  | foreign => rfl
  | unmade failure =>
      simp only [headerFailed, List.map_cons, List.map_map]
      rfl
  | made made => exact marksOfRows_succ index 1 made rows.tail

theorem marksOfTables_succ (tables : List (Tree String)) :
    marksOfTables (index + 1) session tables =
      (marksOfTables index session tables).map (Prod.map .advance id) := by
  induction tables generalizing index session with
  | nil => rfl
  | cons table tables inductionHypothesis =>
      rw [marksOfTables, marksOfTables, List.map_append, marksOfTable_succ, inductionHypothesis]

/-! ## Tables that run no row -/

/-- A table with a header runs no row, and makes some marks: one exception at the class that
its actor cannot be made of, with every row ignored, or one ignored cell where its header is
not that of a script. -/
inductive Idle (session : Session) (index : Nat) (table : Tree String) :
    List (CellRef × Mark) → Prop where
  | unmade {header className : Tree String} {arguments rows : List (Tree String)}
      {failure : Failure} : table.branches = header :: rows →
      actorOf? header = some (className :: arguments) →
      session.construct className.value arguments = .error failure →
      Idle session index table
        ((⟨index, 0, 1⟩, .exception (failureText session failure))
          :: (List.range rows.length).map fun row => (⟨index, row + 1, 0⟩, .ignored))
  | foreign {header : Tree String} {rows : List (Tree String)} :
      table.branches = header :: rows → actorOf? header = none →
      Idle session index table [(⟨index, 0, 0⟩, .ignored)]

variable {table row index session}

/-- Such a table makes these marks and no others, and leaves the session as it was. -/
theorem Idle.effect {table : Tree String} {own : List (CellRef × Mark)}
    (idle : Idle session index table own) :
    marksOfTable index session table.branches = own ∧
      afterTable session table.branches = session := by
  rw [marksOfTable, afterTable]
  cases idle with
  | unmade branches named failed =>
      rw [branches, opening, named]
      simp only [makeActor, Session.make, failed, and_true]
      rfl
  | foreign branches unnamed =>
      rw [branches, opening, unnamed]
      exact ⟨rfl, rfl⟩

/-- What such a table does takes no call. -/
theorem Idle.withInvokeRules {table : Tree String} {own : List (CellRef × Mark)}
    (idle : Idle session index table own) (rules : List InvokeRule) :
    Idle (session.withInvokeRules rules) index table own := by
  cases idle with
  | unmade branches named failed =>
      rw [← session.construct_withInvokeRules rules] at failed
      have unmade : Idle (session.withInvokeRules rules) index table _ :=
        .unmade branches named failed
      rw [failureText, Session.composeFailure_withInvokeRules] at unmade
      exact unmade
  | foreign branches unnamed => exact .foreign branches unnamed

/-! ## Removal of a table -/

/-- The marks of some tables without those of an idle one are the marks of the tables without
that table. -/
theorem Idle.marksOfTables {before after : List (Tree String)} {table : Tree String}
    {own : List (CellRef × Mark)}
    (idle : Idle (afterTables session before) before.length table own) :
    Script.marksOfTables 0 session (before ++ after) =
      withoutTable before.length
        (Script.marksOfTables 0 session (before ++ table :: after)) := by
  -- The tables behind start in the same session with or without the idle one.
  obtain ⟨marks, unchanged⟩ := idle.effect
  have front := marksOfTables_inTables 0 session before
  have middle := marksOfTable_inRows before.length (afterTables session before) table.branches
  have back := marksOfTables_inTables before.length (afterTables session before) after
  rw [marksOfTables_append, marksOfTables_append, Script.marksOfTables, unchanged,
    Nat.zero_add, marksOfTables_succ, withoutTable_append, withoutTable_append,
    withoutTable_own middle.table, List.nil_append, withoutTable_back, withoutTable_front]
  · intro cell member
    have bounds := front.bounds member
    omega
  · exact fun cell member => (back.bounds member).1

/-- A report shows these marks of a table, and another one all its other marks. -/
structure Removed (full fewer : Report) (index : Nat) (own : List (CellRef × Mark)) :
    Prop where
  own : full.cells.filter (fun cell => cell.1.table = index) = own
  others : fewer.cells = withoutTable index full.cells

/-- A table that runs no row makes its own marks only: without it the report has all other
marks, and no others, one table nearer where they stand behind it. It would do the same
whatever calls do, and so makes none. -/
theorem run_removed (registry : Registry) (dialect : Dialect) {tables fewer table : Tree String}
    {before after : List (Tree String)} {own : List (CellRef × Mark)}
    (listed : tables.branches = before ++ table :: after)
    (remaining : fewer.branches = before ++ after)
    (idle : Idle (afterTables (.start registry dialect) before) before.length table own) :
    Removed (run registry dialect tables) (run registry dialect fewer) before.length own ∧
      ∀ rules reporter,
        runTable before.length table.branches
            ⟨(afterTables (.start registry dialect) before).withInvokeRules rules, reporter⟩ =
          ⟨(afterTables (.start registry dialect) before).withInvokeRules rules,
            reporter.markAll own⟩ := by
  refine ⟨⟨?_, ?_⟩, ?_⟩
  · rw [run_cells, listed, filter_marksOfTables]
    exact idle.effect.1
  · rw [run_cells, run_cells, listed, remaining]
    exact idle.marksOfTables
  · intro rules reporter
    obtain ⟨marks, unchanged⟩ := (idle.withInvokeRules rules).effect
    rw [runTable_eq, marks, unchanged]
    rfl

end Script

end Table

end ListInvocation

namespace ListInvocation.Table.Script

/-- A script that makes an actor. -/
def firstScript : Tree String :=
  .list [
    Tree.textList ["script", "demo.Calculator"],
    Tree.textList ["add", "5"]]

/-- A script whose actor cannot be made. -/
def brokenScript : Tree String :=
  .list [
    Tree.textList ["script", "demo.Missing"],
    Tree.textList ["add", "7"],
    Tree.textList ["check", "total", "7"]]

/-- A script that goes on with the actor that is there. -/
def resumedScript : Tree String :=
  .list [
    Tree.textList ["script"],
    Tree.textList ["check", "total", "5"]]

theorem run_removed_brokenScript :
    let start := Session.start Sample.registry .standard
    let full := run Sample.registry .standard (.list [firstScript, brokenScript, resumedScript])
    let fewer := run Sample.registry .standard (.list [firstScript, resumedScript])
    ∃ own, Idle (afterTables start [firstScript]) 1 brokenScript own ∧
      Removed full fewer 1 own ∧
      own.map (fun cell => (cell.1, cell.2.kind)) =
        [(⟨1, 0, 1⟩, .exception), (⟨1, 1, 0⟩, .ignored), (⟨1, 2, 0⟩, .ignored)] ∧
      fewer.cells = [(⟨1, 1, 2⟩, .right)] := by
  intro start full fewer
  have idle : Idle (afterTables start [firstScript]) 1 brokenScript _ := .unmade rfl rfl rfl
  have removed : Removed full fewer [firstScript].length _ :=
    (run_removed Sample.registry .standard rfl rfl idle).1
  exact ⟨_, idle, removed, rfl, by decide +kernel⟩

end ListInvocation.Table.Script
