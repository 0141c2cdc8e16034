import ListInvocation.Fixture.Sample
import ListInvocation.Proofs.Table.InstructionTable
import ListInvocation.Proofs.Table.Position
import ListInvocation.Proofs.Table.Script
import ListInvocation.Platform

/-!
Contract: no row is marked twice, and no assertion goes unmarked.

Owns: the places of all marks of both kinds of tables, the rows that a run of scripts comes
to, and the number of marks that each of them makes.

Does not own: what a mark says.
-/

namespace ListInvocation.Table

/-- The marks of a row. -/
def Report.marksIn (report : Report) (table row : Nat) : List (CellRef × Mark) :=
  (report.cells.filter fun cell => cell.1.table = table).filter fun cell => cell.1.row = row

/-! ## Scripts -/

namespace Script

variable (table : Nat)

theorem headerFailed_inRows (message : String) (rows : List (Tree String)) :
    InRows table 0 (1 + rows.length) (headerFailed table message rows) := by
  have ignored : InRows table 1 rows.length
      ((List.range rows.length).map fun row => (⟨table, row + 1, 0⟩, .ignored)) := by
    refine ⟨?_, ?_, ?_⟩
    · refine List.pairwise_map.mpr (List.pairwise_lt_range.imp ?_)
      intro earlier later before
      exact .inr ⟨rfl, Nat.succ_lt_succ before⟩
    · exact List.forall_mem_map.mpr fun _ _ => rfl
    · refine List.forall_mem_map.mpr fun row inRange => ?_
      have below := List.mem_range.mp inRange
      show 1 ≤ row + 1 ∧ row + 1 < 1 + rows.length
      omega
  exact (InRows.single table 0 0 1 (.exception message)).append ignored

variable [Text.Alphabet] (row index : Nat) (session : Session)

theorem rowMarks_inRows (cells : List (Tree String)) :
    InRows table row 1 (rowMarks table row session cells) := by
  unfold rowMarks
  cases (runRow session cells).1 with
  | none => exact .nil ..
  | some mark => exact .single table row 0 mark.1 mark.2

theorem marksOfRows_inRows (rows : List (Tree String)) :
    InRows table row rows.length (marksOfRows table row session rows) := by
  induction rows generalizing row session with
  | nil => exact .nil ..
  | cons cells rows inductionHypothesis =>
      rw [List.length_cons, Nat.add_comm]
      exact (rowMarks_inRows table row session cells.branches).append
        (inductionHypothesis (row + 1) (afterRow session cells))

theorem marksOfTable_inRows (rows : List (Tree String)) :
    InRows index 0 rows.length (marksOfTable index session rows) := by
  unfold marksOfTable
  cases rows with
  | nil => exact .nil ..
  | cons header rows =>
      rw [List.length_cons, Nat.add_comm, List.tail_cons]
      cases opening session (header :: rows) with
      | empty => exact .nil ..
      | foreign =>
          rw [Nat.add_comm]
          exact .single index 0 _ 0 .ignored
      | unmade failure => exact headerFailed_inRows index _ rows
      | made made =>
          exact (InRows.nil index 0 1).append
            (marksOfRows_inRows index 1 made rows)

theorem marksOfTables_inTables (tables : List (Tree String)) :
    InTables index tables (marksOfTables index session tables) := by
  induction tables generalizing index session with
  | nil => exact .nil
  | cons table tables inductionHypothesis =>
      exact .cons (marksOfTable_inRows index session table.branches)
        (inductionHypothesis (index + 1) (afterTable session table.branches))

/-- The marks with the index of a table are those of this table. -/
theorem filter_marksOfTables (before after : List (Tree String)) (found : Tree String) :
    (marksOfTables 0 session (before ++ found :: after)).filter
        (fun cell => cell.1.table = before.length) =
      marksOfTable before.length (afterTables session before) found.branches := by
  have front := marksOfTables_inTables 0 session before
  have own := marksOfTable_inRows before.length (afterTables session before) found.branches
  have back := marksOfTables_inTables (before.length + 1)
    (afterTable (afterTables session before) found.branches) after
  have all : (marksOfTable before.length (afterTables session before) found.branches).filter
      (fun cell => cell.1.table = before.length) =
        marksOfTable before.length (afterTables session before) found.branches :=
    List.filter_eq_self.mpr fun cell member => decide_eq_true (own.table cell member)
  rw [marksOfTables_append, marksOfTables, Nat.zero_add, List.filter_append,
    List.filter_append, front.filter_other (.inr (by omega)), all,
    back.filter_other (.inl (by omega)), List.nil_append, List.append_nil]

/-! ## Rows that a run comes to -/

/-- A run of tables comes to a row of a script whose actor could be made: in the session that
the tables and the rows before it leave. -/
inductive ComesTo (start : Session) (tables : List (Tree String)) :
    (table row : Nat) → Session → List (Tree String) → Prop where
  | row {before after earlier later : List (Tree String)} {found header cells : Tree String}
      {made : Session} :
      tables = before ++ found :: after →
      found.branches = header :: (earlier ++ cells :: later) →
      opening (afterTables start before) found.branches = .made made →
      ComesTo start tables before.length (earlier.length + 1) (afterRows made earlier)
        cells.branches

variable {registry : Registry} {dialect : Dialect} {tables : Tree String}

/-- A run comes to every row behind the header of a script whose actor could be made. -/
theorem exists_comesTo {start made : Session} {before : List (Tree String)}
    {found cells : Tree String} {row : Nat} (after : List (Tree String))
    (opened : opening (afterTables start before) found.branches = .made made)
    (positive : 0 < row) (listed : found.branches[row]? = some cells) :
    ∃ session, ComesTo start (before ++ found :: after) before.length row session
      cells.branches := by
  -- Row zero is the header, and the rows behind it are counted from there.
  obtain ⟨offset, rfl⟩ := Nat.exists_eq_succ_of_ne_zero (Nat.ne_of_gt positive)
  cases branches : found.branches with
  | nil => rw [branches] at listed; contradiction
  | cons header rows =>
      rw [branches, List.getElem?_cons_succ] at listed
      obtain ⟨inRange, isRow⟩ := List.getElem?_eq_some_iff.mp listed
      have parts : rows = rows.take offset ++ cells :: rows.drop (offset + 1) := by
        rw [← isRow, ← List.drop_eq_getElem_cons inRange, List.take_append_drop]
      have length : (rows.take offset).length = offset :=
        List.length_take_of_le (Nat.le_of_lt inRange)
      have comes : ComesTo start (before ++ found :: after) before.length
          ((rows.take offset).length + 1) _ cells.branches :=
        .row rfl (branches.trans (congrArg _ parts)) opened
      rw [length] at comes
      exact ⟨_, comes⟩

/-- The marks at a row that a run comes to are those that the row makes there. -/
theorem ComesTo.marksIn {table row : Nat} {session : Session} {cells : List (Tree String)}
    (comes : ComesTo (.start registry dialect) tables.branches table row session cells) :
    (run registry dialect tables).marksIn table row = rowMarks table row session cells := by
  cases comes with
  | @row before after earlier later found header cells made listed branches opened =>
      -- The rows before and behind this one have marks with other indices only.
      have front := marksOfRows_inRows before.length 1 made earlier
      have own := rowMarks_inRows before.length (1 + earlier.length) (afterRows made earlier)
        cells.branches
      have back := marksOfRows_inRows before.length (1 + earlier.length + 1)
        (afterRow (afterRows made earlier) cells) later
      have all : (rowMarks before.length (1 + earlier.length) (afterRows made earlier)
          cells.branches).filter (fun cell => cell.1.row = earlier.length + 1) =
            rowMarks before.length (1 + earlier.length) (afterRows made earlier)
              cells.branches := by
        refine List.filter_eq_self.mpr fun cell member => decide_eq_true ?_
        have bounds := own.rows cell member
        omega
      rw [Report.marksIn, run_cells, listed, filter_marksOfTables, marksOfTable, opened]
      simp only
      rw [branches, List.tail_cons, marksOfRows_append, marksOfRows, List.filter_append,
        List.filter_append, front.filter_other (.inr (by omega)), all,
        back.filter_other (.inl (by omega)), List.nil_append, List.append_nil, Nat.add_comm 1]

/-! ## Marks of a row -/

end Script

/-- Rows that are to be marked whatever happens. -/
def ScriptRow.asserts : ScriptRow → Bool
  | .check .. | .ensure .. | .present .. | .invalid => true
  | .note | .action .. => false

namespace Script

variable [Text.Alphabet]

/-- The marks of a row are as many as its kind asks for. -/
structure RowReported (session : Session) (cells : List (Tree String))
    (marks : List (CellRef × Mark)) : Prop where
  asserted : (ScriptRow.ofCells cells).asserts = true → marks.length = 1
  note : ScriptRow.ofCells cells = .note → marks = []
  failed : ∀ member arguments failure, ScriptRow.ofCells cells = .action member arguments →
    (session.call scriptActor member arguments).1 = .error failure → marks.length = 1
  answered : ∀ member arguments value, ScriptRow.ofCells cells = .action member arguments →
    (session.call scriptActor member arguments).1 = .ok value →
    marks.length = if value.value.asBool?.isSome then 1 else 0

theorem length_rowMarks (table row : Nat) (session : Session) (cells : List (Tree String)) :
    (rowMarks table row session cells).length = (runRow session cells).1.toList.length :=
  List.length_map ..

theorem rowMarks_reported (table row : Nat) (session : Session) (cells : List (Tree String)) :
    RowReported session cells (rowMarks table row session cells) := by
  constructor
  case asserted =>
    intro asserts
    rw [length_rowMarks]
    unfold runRow
    cases kind : ScriptRow.ofCells cells with
    | note => rw [kind] at asserts; contradiction
    | action member arguments => rw [kind] at asserts; contradiction
    | invalid => rfl
    | check negate member arguments expected =>
        simp only [callActor]
        cases (session.call scriptActor member arguments).1 <;> rfl
    | ensure expect member arguments =>
        simp only [callActor]
        cases (session.call scriptActor member arguments).1 <;> rfl
    | present member arguments =>
        simp only [callActor]
        cases (session.call scriptActor member arguments).1 <;> rfl
  case note =>
    intro isNote
    rw [rowMarks, runRow, isNote]
    rfl
  case failed =>
    intro member arguments failure isAction failed
    rw [length_rowMarks, runRow, isAction]
    simp only [callActor]
    rw [failed]
    rfl
  case answered =>
    intro member arguments value isAction answered
    rw [length_rowMarks, runRow, isAction]
    simp only [callActor]
    rw [answered]
    simp only [actionMark?]
    cases value.value.asBool? with
    | none => rfl
    | some truth => cases truth <;> rfl

end Script

/-! ## Tables of instructions -/

namespace InstructionTable

variable {table row index : Nat} {tables : List (Tree String)} {outcomes : List Outcome}
  {marks : List (CellRef × Mark)}

theorem RowsReported.inRows (reported : RowsReported table row outcomes marks) :
    InRows table row outcomes.length marks := by
  induction reported with
  | done => exact .nil ..
  | succeeded _ _ inductionHypothesis =>
      rw [List.length_cons, Nat.add_comm]
      exact (InRows.single table _ 0 0 .right).append inductionHypothesis
  | failed _ _ inductionHypothesis =>
      rw [List.length_cons, Nat.add_comm]
      exact (InRows.single table _ 0 0 _).append inductionHypothesis

theorem Reported.inTables (reported : Reported index tables outcomes marks) :
    InTables index tables marks := by
  induction reported with
  | done => exact .nil
  | @empty index table _ _ _ _ _ inductionHypothesis =>
      exact InTables.cons (InRows.nil index 0 table.branches.length) inductionHypothesis
  | @foreign index table header rows _ _ _ shape _ _ inductionHypothesis =>
      have own : InRows index 0 table.branches.length [(⟨index, 0, 0⟩, .ignored)] := by
        rw [shape, List.length_cons]
        exact .single index 0 _ 0 .ignored
      exact .cons own inductionHypothesis
  | @instructions index table header rows _ own _ ownMarks _ shape _ each reported _
      inductionHypothesis =>
      have inRows : InRows index 0 table.branches.length ownMarks := by
        rw [shape, List.length_cons, ← each, Nat.add_comm]
        exact (InRows.nil index 0 1).append reported.inRows
      exact .cons inRows inductionHypothesis

end InstructionTable

/-! ## Reports -/

variable [Text.Alphabet]

/-- Both standard runners mark rows of their tables in order and at most once. In a script
whose actor could be made no assertion goes unmarked, whatever became of the rows before it. -/
theorem run_inPlace (registry : Registry) (dialect : Dialect) (tables : Tree String) :
    (Script.run registry dialect tables).InPlace tables.branches ∧
      (InstructionTable.run registry dialect tables).InPlace tables.branches ∧
      ∀ before found after made, tables.branches = before ++ found :: after →
        Script.opening (Script.afterTables (.start registry dialect) before) found.branches =
          .made made →
        ∀ row cells, 0 < row → found.branches[row]? = some cells →
        ∃ session, Script.ComesTo (.start registry dialect) tables.branches before.length row
            session cells.branches ∧
          Script.RowReported session cells.branches
            ((Script.run registry dialect tables).marksIn before.length row) := by
  refine ⟨?_, ?_, ?_⟩
  · apply InTables.inPlace
    rw [Script.run_cells]
    exact Script.marksOfTables_inTables 0 _ tables.branches
  · apply InTables.inPlace
    obtain ⟨marks, reported, ran⟩ :=
      InstructionTable.runTables_reported tables.branches 0 (.start registry dialect)
    rw [InstructionTable.run, ran, (Progress.finish_next_start registry dialect _ marks).2]
    exact reported.inTables
  · intro before found after made listed opened row cells positive isRow
    obtain ⟨session, comes⟩ := Script.exists_comesTo after opened positive isRow
    rw [← listed] at comes
    refine ⟨session, comes, ?_⟩
    rw [comes.marksIn]
    exact Script.rowMarks_reported before.length row session cells.branches

end ListInvocation.Table

namespace ListInvocation.Table

/-- A table that is no script. -/
def foreignTable : Tree String :=
  .list [Tree.textList ["comment"]]

/-- A script with a row that fails, and a note, in front of a check. -/
def unevenScript : Tree String :=
  .list [
    Tree.textList ["script", "demo.Calculator"],
    Tree.textList ["fly"],
    Tree.textList ["# nothing"],
    Tree.textList ["check", "total", "0"]]

theorem run_inPlace_unevenScript :
    let start := Session.start Sample.registry .standard
    let report := Script.run Sample.registry .standard (.list [foreignTable, unevenScript])
    report.cells.map (fun cell => (cell.1.table, cell.1.row, cell.2.kind)) =
        [(0, 0, .ignored), (1, 1, .exception), (1, 3, .right)] ∧
      ∃ made session,
        Script.opening (Script.afterTables start [foreignTable]) unevenScript.branches =
          .made made ∧
        Script.RowReported session (Tree.textList ["check", "total", "0"]).branches
          (report.marksIn 1 3) := by
  intro start report
  have opened : Script.opening (Script.afterTables start [foreignTable])
      unevenScript.branches = .made _ := rfl
  obtain ⟨_, _, rows⟩ :=
    run_inPlace Sample.registry .standard (.list [foreignTable, unevenScript])
  obtain ⟨session, _, reported⟩ := rows [foreignTable] unevenScript [] _ rfl opened 3
    (Tree.textList ["check", "total", "0"]) (by decide) rfl
  exact ⟨by decide +kernel, _, session, opened, reported⟩

end ListInvocation.Table
