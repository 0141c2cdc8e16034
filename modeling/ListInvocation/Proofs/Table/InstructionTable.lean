import ListInvocation.Table.InstructionTable
import ListInvocation.Proofs.Session.Batch
import ListInvocation.Proofs.Table.Report

/-!
Contract: tables of instructions are one batch.

Owns: the instructions of some tables, how their outcomes and the other tables are reported,
and the agreement of a run with the batch of all instructions.

Does not own: what an instruction does.
-/

namespace ListInvocation.Table.InstructionTable

/-! ## Instructions and their report -/

/-- The rows behind the header of a table of instructions; no other table has any. -/
def instructionsIn : List (Tree String) → List (Tree String)
  | [] => []
  | header :: rows => if isHeader header then rows else []

/-- All instructions of some tables, in order. -/
def instructionsOf (tables : List (Tree String)) : List (Tree String) :=
  tables.flatMap fun table => instructionsIn table.branches

/-- Whether a table has a header of another kind. -/
def isForeign (table : Tree String) : Bool :=
  table.branches.head?.any fun header => !isHeader header

/-- The rows of a table from the given one on are reported: each by one mark, which is an
exception with the text of the result exactly when the outcome is a failure. -/
inductive RowsReported (table : Nat) :
    (row : Nat) → List Outcome → List (CellRef × Mark) → Prop where
  | done {row : Nat} : RowsReported table row [] []
  | succeeded {row : Nat} {outcome : Outcome} {outcomes : List Outcome}
      {marks : List (CellRef × Mark)} :
      outcome.failure? = none → RowsReported table (row + 1) outcomes marks →
      RowsReported table row (outcome :: outcomes) ((⟨table, row, 0⟩, .right) :: marks)
  | failed {row : Nat} {outcome : Outcome} {failure : Failure} {outcomes : List Outcome}
      {marks : List (CellRef × Mark)} :
      outcome.failure? = some failure → RowsReported table (row + 1) outcomes marks →
      RowsReported table row (outcome :: outcomes)
        ((⟨table, row, 0⟩, .exception (display outcome.result)) :: marks)

/-- Tables from the given one on are reported, with one outcome for each instruction: an
empty table not at all, a foreign one by one ignored cell. -/
inductive Reported :
    (index : Nat) → List (Tree String) → List Outcome → List (CellRef × Mark) → Prop where
  | done {index : Nat} : Reported index [] [] []
  | empty {index : Nat} {table : Tree String} {tables : List (Tree String)}
      {outcomes : List Outcome} {marks : List (CellRef × Mark)} :
      table.branches = [] → Reported (index + 1) tables outcomes marks →
      Reported index (table :: tables) outcomes marks
  | foreign {index : Nat} {table header : Tree String} {rows tables : List (Tree String)}
      {outcomes : List Outcome} {marks : List (CellRef × Mark)} :
      table.branches = header :: rows → isHeader header = false →
      Reported (index + 1) tables outcomes marks →
      Reported index (table :: tables) outcomes ((⟨index, 0, 0⟩, .ignored) :: marks)
  | instructions {index : Nat} {table header : Tree String} {rows tables : List (Tree String)}
      {own outcomes : List Outcome} {ownMarks marks : List (CellRef × Mark)} :
      table.branches = header :: rows → isHeader header = true → own.length = rows.length →
      RowsReported index 1 own ownMarks → Reported (index + 1) tables outcomes marks →
      Reported index (table :: tables) (own ++ outcomes) (ownMarks ++ marks)

/-! ## Numbers -/

abbrev failuresOf (outcomes : List Outcome) : Nat :=
  outcomes.countP fun outcome => outcome.failure?.isSome

section Numbers

variable {index : Nat} {tables : List (Tree String)} {outcomes : List Outcome}
  {marks : List (CellRef × Mark)}

theorem RowsReported.numbers {table row : Nat}
    (reported : RowsReported table row outcomes marks) :
    numberOf .right (marks.map Prod.snd) + numberOf .exception (marks.map Prod.snd) =
        outcomes.length ∧
      numberOf .exception (marks.map Prod.snd) = failuresOf outcomes ∧
      numberOf .ignored (marks.map Prod.snd) = 0 := by
  induction reported with
  | done => exact ⟨rfl, rfl, rfl⟩
  | succeeded clean _ inductionHypothesis =>
      obtain ⟨executed, failures, ignored⟩ := inductionHypothesis
      simp only [List.map_cons, numberOf_cons, Mark.kind, List.length_cons, List.countP_cons,
        clean, Option.isSome_none, reduceCtorEq, if_true, if_false, failuresOf] at failures ⊢
      omega
  | failed broken _ inductionHypothesis =>
      obtain ⟨executed, failures, ignored⟩ := inductionHypothesis
      simp only [List.map_cons, numberOf_cons, Mark.kind, List.length_cons, List.countP_cons,
        broken, Option.isSome_some, reduceCtorEq, if_true, if_false, failuresOf] at failures ⊢
      omega

theorem Reported.numbers (reported : Reported index tables outcomes marks) :
    numberOf .right (marks.map Prod.snd) + numberOf .exception (marks.map Prod.snd) =
        outcomes.length ∧
      numberOf .exception (marks.map Prod.snd) = failuresOf outcomes ∧
      numberOf .ignored (marks.map Prod.snd) = tables.countP isForeign := by
  induction reported with
  | done => exact ⟨rfl, rfl, rfl⟩
  | empty shape _ inductionHypothesis =>
      simpa [List.countP_cons, isForeign, shape] using inductionHypothesis
  | foreign shape notHeader _ inductionHypothesis =>
      simpa [List.countP_cons, isForeign, shape, notHeader, numberOf_cons, Mark.kind]
        using inductionHypothesis
  | instructions shape header _ rows _ inductionHypothesis =>
      obtain ⟨ownExecuted, ownFailures, ownIgnored⟩ := rows.numbers
      obtain ⟨executed, failures, ignored⟩ := inductionHypothesis
      simp only [List.map_append, numberOf_append, List.length_append, List.countP_append,
        List.countP_cons, isForeign, shape, List.head?_cons, Option.any_some, header,
        Bool.not_true, Bool.false_eq_true, if_false, failuresOf] at ownFailures failures ⊢
      exact ⟨by omega, by omega, by rw [ownIgnored, ignored]; exact Nat.zero_add _⟩

end Numbers

/-! ## Runs -/

theorem instructionsOf_cons (table : Tree String) (tables : List (Tree String)) :
    instructionsOf (table :: tables) = instructionsIn table.branches ++ instructionsOf tables :=
  List.flatMap_cons

variable [Text.Alphabet]

theorem runRows_reported (table : Nat) (rows : List (Tree String)) (row : Nat)
    (progress : Progress) :
    ∃ marks, RowsReported table row (progress.session.executeAll rows).1 marks ∧
      runRows table row rows progress =
        progress.next (progress.session.executeAll rows).2 marks := by
  induction rows generalizing row progress with
  | nil => exact ⟨[], .done, rfl⟩
  | cons instruction rows inductionHypothesis =>
      let outcome := (progress.session.executeInstruction instruction).1
      let session := (progress.session.executeInstruction instruction).2
      let mark : CellRef × Mark := (⟨table, row, 0⟩, markOf outcome)
      obtain ⟨marks, reported, ran⟩ :=
        inductionHypothesis (row + 1) (progress.next session [mark])
      refine ⟨mark :: marks, ?_, ?_⟩
      · -- Whether the instruction failed decides on its mark.
        rw [Session.executeAll_cons]
        cases failure : outcome.failure? with
        | none =>
            have clean : markOf outcome = .right := by rw [markOf, failure]
            simp only [mark, clean]
            exact .succeeded failure reported
        | some cause =>
            have broken : markOf outcome = .exception (display outcome.result) := by
              rw [markOf, failure]
            simp only [mark, broken]
            exact .failed failure reported
      · exact ran.trans (progress.next_next ..)

/-- A run of tables reports the batch of their instructions, and leaves the session that the
batch leaves. -/
theorem runTables_reported (tables : List (Tree String)) (index : Nat) (progress : Progress) :
    ∃ marks, Reported index tables
        (progress.session.executeAll (instructionsOf tables)).1 marks ∧
      runTables index tables progress =
        progress.next (progress.session.executeAll (instructionsOf tables)).2 marks := by
  induction tables generalizing index progress with
  | nil => exact ⟨[], .done, rfl⟩
  | cons table tables inductionHypothesis =>
      rw [instructionsOf_cons, runTables]
      cases shape : table.branches with
      | nil =>
          obtain ⟨marks, reported, ran⟩ := inductionHypothesis (index + 1) progress
          exact ⟨marks, .empty shape reported, ran⟩
      | cons header rows =>
          cases isOne : isHeader header with
          | false =>
              let mark : CellRef × Mark := (⟨index, 0, 0⟩, .ignored)
              obtain ⟨marks, reported, ran⟩ :=
                inductionHypothesis (index + 1) (progress.markAll [mark])
              rw [instructionsIn, runTable, isOne]
              exact ⟨mark :: marks, .foreign shape isOne reported,
                ran.trans (progress.next_next ..)⟩
          | true =>
              obtain ⟨ownMarks, ownReported, ownRan⟩ := runRows_reported index rows 1 progress
              obtain ⟨marks, reported, ran⟩ :=
                inductionHypothesis (index + 1) (runRows index 1 rows progress)
              rw [ownRan] at reported ran
              rw [instructionsIn, runTable, isOne, if_pos rfl, if_pos rfl,
                Session.executeAll_append, ownRan]
              refine ⟨ownMarks ++ marks, ?_, ran.trans (progress.next_next ..)⟩
              have each := (progress.session.executeAll_ids rows).length_eq
              exact .instructions shape isOne each.symm ownReported reported

/-- A report shows a batch of instructions: each outcome by one mark in its place, and each
foreign table by one ignored cell. -/
structure Shows (tables : List (Tree String)) (batch : BatchOutcome) (report : Report) :
    Prop where
  cells : Reported 0 tables batch.outcomes report.cells
  executed : numberOf .right (report.cells.map Prod.snd) +
    numberOf .exception (report.cells.map Prod.snd) = batch.executed
  failures : numberOf .exception (report.cells.map Prod.snd) = batch.failures
  foreign : numberOf .ignored (report.cells.map Prod.snd) = tables.countP isForeign
  counts : ∃ counts, report.AddsUp counts ∧
    counts.right + counts.exceptions = UInt64.ofNat batch.executed ∧
    counts.exceptions = UInt64.ofNat batch.failures ∧
    counts.ignores = UInt64.ofNat (tables.countP isForeign)

omit [Text.Alphabet] in
/-- A run that makes the marks of a batch and ends shows the batch. -/
theorem Reported.shows {registry : Registry} {dialect : Dialect} {session : Session}
    {tables : List (Tree String)} {batch : BatchOutcome} {marks : List (CellRef × Mark)}
    (reported : Reported 0 tables batch.outcomes marks) :
    Shows tables batch ((Progress.start registry dialect).next session marks).finish := by
  obtain ⟨⟨counts, addsUp⟩, cells⟩ := Progress.finish_next_start registry dialect session marks
  rw [← cells] at reported
  obtain ⟨executed, failures, foreign⟩ := reported.numbers
  have tallied := addsUp.tallied
  refine ⟨reported, executed, failures, foreign, counts, addsUp, ?_, ?_, ?_⟩
  · rw [tallied.right, tallied.exceptions, ← UInt64.ofNat_add, executed]
    rfl
  · rw [tallied.exceptions, failures]
    rfl
  · rw [tallied.ignores, foreign]

/-- A run of tables is the batch of all their instructions in a fresh session: the report
shows its outcomes, and the session ends as the batch leaves it. -/
theorem run_shows (registry : Registry) (dialect : Dialect) (tables : Tree String) :
    let batch := (Session.start registry dialect).execute (.list (instructionsOf tables.branches))
    Shows tables.branches batch.1 (run registry dialect tables) ∧
      (runTables 0 tables.branches (.start registry dialect)).session = batch.2 := by
  intro batch
  obtain ⟨marks, reported, ran⟩ :=
    runTables_reported tables.branches 0 (.start registry dialect)
  have report : run registry dialect tables =
      ((Progress.start registry dialect).next batch.2 marks).finish :=
    congrArg Progress.finish ran
  rw [report]
  exact ⟨Reported.shows reported, congrArg Progress.session ran⟩

end ListInvocation.Table.InstructionTable
