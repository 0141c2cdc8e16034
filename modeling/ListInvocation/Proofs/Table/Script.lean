import ListInvocation.Table.Script
import ListInvocation.Proofs.Session.Operation
import ListInvocation.Proofs.Table.Report

/-!
Contract: a run of scripts, told apart into the sessions it passes and the marks it makes.

Neither depends on what was reported before, and the sessions do not depend on the indices of
tables and rows.

Owns: the session behind each row and table, its dialect, the marks of each row and table,
how a table starts, and the agreement of runs with these.

Does not own: which mark a row makes.
-/

namespace ListInvocation.Table.Script

variable [Text.Alphabet] (table row index : Nat) (session : Session) (progress : Progress)

/-! ## Rows -/

/-- The marks that a row makes: one, or none. -/
def rowMarks (cells : List (Tree String)) : List (CellRef × Mark) :=
  (runRow session cells).1.toList.map fun (cell, mark) => (⟨table, row, cell⟩, mark)

variable {table row session} in
theorem mem_rowMarks {cells : List (Tree String)} {position : CellRef} {mark : Mark} :
    (position, mark) ∈ rowMarks table row session cells ↔
      (position.table = table ∧ position.row = row) ∧
        (runRow session cells).1 = some (position.cell, mark) := by
  obtain ⟨ownTable, ownRow, cell⟩ := position
  simp only [rowMarks, List.mem_map, Option.mem_toList, Prod.exists, Prod.mk.injEq,
    CellRef.mk.injEq]
  constructor
  · rintro ⟨_, _, marked, ⟨rfl, rfl, rfl⟩, rfl⟩
    exact ⟨⟨rfl, rfl⟩, marked⟩
  · rintro ⟨⟨rfl, rfl⟩, marked⟩
    exact ⟨cell, mark, marked, ⟨rfl, rfl, rfl⟩, rfl⟩

def afterRow (cells : Tree String) : Session :=
  (runRow session cells.branches).2

def afterRows (rows : List (Tree String)) : Session :=
  rows.foldl afterRow session

/-- The marks of some rows, the first one with the given index in its table. -/
def marksOfRows (table : Nat) :
    (row : Nat) → Session → List (Tree String) → List (CellRef × Mark)
  | _, _, [] => []
  | row, session, cells :: rows =>
      rowMarks table row session cells.branches
        ++ marksOfRows table (row + 1) (afterRow session cells) rows

theorem runRows_eq (rows : List (Tree String)) :
    runRows table row rows progress =
      progress.next (afterRows progress.session rows)
        (marksOfRows table row progress.session rows) := by
  induction rows generalizing row progress with
  | nil => rfl
  | cons cells rows inductionHypothesis =>
      rw [runRows]
      exact (inductionHypothesis (row + 1) _).trans (progress.next_next ..)

theorem marksOfRows_append (front back : List (Tree String)) :
    marksOfRows table row session (front ++ back) =
      marksOfRows table row session front
        ++ marksOfRows table (row + front.length) (afterRows session front) back := by
  induction front generalizing row session with
  | nil => rfl
  | cons cells front inductionHypothesis =>
      rw [List.cons_append, marksOfRows, inductionHypothesis, marksOfRows, List.append_assoc,
        List.length_cons, Nat.add_assoc, Nat.add_comm 1]
      rfl

/-- Every mark of some rows is that of one of them, in the session that the rows before it
leave. -/
theorem exists_row_of_mem {rows : List (Tree String)} {cell : CellRef × Mark}
    (marked : cell ∈ marksOfRows table row session rows) :
    ∃ earlier cells later, rows = earlier ++ cells :: later ∧
      cell ∈ rowMarks table (row + earlier.length) (afterRows session earlier)
        cells.branches := by
  induction rows generalizing row session with
  | nil => exact absurd marked List.not_mem_nil
  | cons cells rows inductionHypothesis =>
      rcases List.mem_append.mp marked with here | behind
      · exact ⟨[], cells, rows, rfl, here⟩
      · obtain ⟨earlier, found, later, parts, inside⟩ :=
          inductionHypothesis (row + 1) (afterRow session cells) behind
        refine ⟨cells :: earlier, found, later, by rw [parts, List.cons_append], ?_⟩
        rw [List.length_cons, Nat.add_comm earlier.length, ← Nat.add_assoc]
        exact inside

/-! ## Starts of tables -/

/-- The cells that name the actor, if a header is that of a script. -/
def actorOf? (header : Tree String) : Option (List (Tree String)) :=
  match header.branches with
  | [] => none
  | keyword :: actor => if cellWord keyword = scriptKeyword then some actor else none

inductive Opening where
  /-- It has no header. -/
  | empty
  /-- Its header is not that of a script. -/
  | foreign
  /-- The actor cannot be made. -/
  | unmade (failure : Failure)
  /-- There is an actor, and the rows run in the session. -/
  | made (session : Session)

def opening : List (Tree String) → Opening
  | [] => .empty
  | header :: _ =>
      match actorOf? header with
      | none => .foreign
      | some actor =>
          match makeActor session actor with
          | (.error failure, _) => .unmade failure
          | (.ok (), made) => .made made

/-- An actor that cannot be made leaves the session as it was. -/
theorem makeActor_of_error {actor : List (Tree String)} {failure : Failure}
    (failed : (makeActor session actor).1 = .error failure) :
    makeActor session actor = (.error failure, session) := by
  cases actor with
  | nil => contradiction
  | cons className arguments =>
      rw [makeActor, Session.make] at failed ⊢
      cases constructed : session.construct className.value arguments with
      | ok bound =>
          rw [constructed] at failed
          contradiction
      | error cause =>
          rw [constructed] at failed
          rw [Except.error.inj failed]

/-! ## Tables -/

def marksOfTable (rows : List (Tree String)) : List (CellRef × Mark) :=
  match opening session rows with
  | .empty => []
  | .foreign => [(⟨index, 0, 0⟩, .ignored)]
  | .unmade failure => headerFailed index (failureText session failure) rows.tail
  | .made made => marksOfRows index 1 made rows.tail

def afterTable (rows : List (Tree String)) : Session :=
  match opening session rows with
  | .made made => afterRows made rows.tail
  | _ => session

def afterTables (tables : List (Tree String)) : Session :=
  tables.foldl (fun session table => afterTable session table.branches) session

/-- The marks of some tables, the first one with the given index. -/
def marksOfTables : (index : Nat) → Session → List (Tree String) → List (CellRef × Mark)
  | _, _, [] => []
  | index, session, table :: tables =>
      marksOfTable index session table.branches
        ++ marksOfTables (index + 1) (afterTable session table.branches) tables

theorem runTable_eq (rows : List (Tree String)) :
    runTable index rows progress =
      progress.next (afterTable progress.session rows)
        (marksOfTable index progress.session rows) := by
  cases rows with
  | nil => rfl
  | cons header rows =>
      rw [runTable, afterTable, marksOfTable, opening, actorOf?]
      cases header.branches with
      | nil => rfl
      | cons keyword actor =>
          by_cases isScript : cellWord keyword = scriptKeyword
          · simp only [if_pos isScript, if_neg (not_not_intro isScript)]
            cases made : (makeActor progress.session actor).1 with
            | error failure => rw [makeActor_of_error progress.session made]; rfl
            | ok nothing =>
                have whole : makeActor progress.session actor =
                    (.ok (), (makeActor progress.session actor).2) := Prod.ext made rfl
                rw [whole]
                exact runRows_eq index 1 _ rows
          · simp only [if_neg isScript, if_pos isScript]
            rfl

theorem runTables_eq (tables : List (Tree String)) :
    runTables index tables progress =
      progress.next (afterTables progress.session tables)
        (marksOfTables index progress.session tables) := by
  induction tables generalizing index progress with
  | nil => rfl
  | cons table tables inductionHypothesis =>
      rw [runTables, inductionHypothesis, runTable_eq]
      exact progress.next_next ..

theorem marksOfTables_append (front back : List (Tree String)) :
    marksOfTables index session (front ++ back) =
      marksOfTables index session front
        ++ marksOfTables (index + front.length) (afterTables session front) back := by
  induction front generalizing index session with
  | nil => rfl
  | cons table front inductionHypothesis =>
      rw [List.cons_append, marksOfTables, inductionHypothesis, marksOfTables,
        List.append_assoc, List.length_cons, Nat.add_assoc, Nat.add_comm 1]
      rfl

/-- Every mark of some tables is that of one of them, in the session that the tables before
it leave. -/
theorem exists_table_of_mem {tables : List (Tree String)} {cell : CellRef × Mark}
    (marked : cell ∈ marksOfTables index session tables) :
    ∃ before found after, tables = before ++ found :: after ∧
      cell ∈ marksOfTable (index + before.length) (afterTables session before)
        found.branches := by
  induction tables generalizing index session with
  | nil => exact absurd marked List.not_mem_nil
  | cons table tables inductionHypothesis =>
      rcases List.mem_append.mp marked with here | behind
      · exact ⟨[], table, tables, rfl, here⟩
      · obtain ⟨before, found, after, parts, inside⟩ :=
          inductionHypothesis (index + 1) (afterTable session table.branches) behind
        refine ⟨table :: before, found, after, by rw [parts, List.cons_append], ?_⟩
        rw [List.length_cons, Nat.add_comm before.length, ← Nat.add_assoc]
        exact inside

/-! ## The dialect of a run -/

section Setting

variable {session made : Session}

theorem afterRows_dialect (rows : List (Tree String)) :
    (afterRows session rows).dialect = session.dialect := by
  induction rows generalizing session with
  | nil => rfl
  | cons cells rows inductionHypothesis =>
      have row : (afterRow session cells).dialect = session.dialect := by
        unfold afterRow runRow
        cases ScriptRow.ofCells cells.branches <;> rfl
      exact inductionHypothesis.trans row

theorem makeActor_dialect (session : Session) (actor : List (Tree String)) :
    (makeActor session actor).2.dialect = session.dialect := by
  cases actor with
  | nil => rfl
  | cons className arguments =>
      exact (session.run_setting (.make scriptActor className.value arguments)).2

theorem dialect_of_made {rows : List (Tree String)}
    (opened : opening session rows = .made made) : made.dialect = session.dialect := by
  unfold opening at opened
  split at opened
  next => contradiction
  next header _ =>
    split at opened
    next => contradiction
    next actor _ =>
      split at opened
      next => contradiction
      next after makes =>
        have same : after = made := Opening.made.inj opened
        have kept := makeActor_dialect session actor
        rw [makes] at kept
        rw [← same]
        exact kept

theorem afterTable_dialect (rows : List (Tree String)) :
    (afterTable session rows).dialect = session.dialect := by
  unfold afterTable
  cases opened : opening session rows with
  | made made => exact (afterRows_dialect rows.tail).trans (dialect_of_made opened)
  | _ => rfl

theorem afterTables_dialect (tables : List (Tree String)) :
    (afterTables session tables).dialect = session.dialect := by
  induction tables generalizing session with
  | nil => rfl
  | cons table tables inductionHypothesis =>
      exact inductionHypothesis.trans (afterTable_dialect table.branches)

end Setting

/-! ## Reports -/

/-- A report shows the marks of its tables. -/
theorem run_cells (registry : Registry) (dialect : Dialect) (tables : Tree String) :
    (run registry dialect tables).cells =
      marksOfTables 0 (.start registry dialect) tables.branches := by
  rw [run, runTables_eq]
  exact (Progress.finish_next_start registry dialect _ _).2

end ListInvocation.Table.Script
