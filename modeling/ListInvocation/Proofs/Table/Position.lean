import ListInvocation.Table.Report

/-!
Contract: where the marks of a report stand.

A run marks rows in their order, and each row once at most. So the table and the row of a
cell find its mark.

Owns: the order of marked cells, marks that stand in some rows of a table or in some tables,
their joining, and reports whose marks are in place.

Does not own: which rows a run marks.
-/

namespace ListInvocation.Table

/-- A cell stands in an earlier table than another one, or in an earlier row of the same. -/
def CellRef.Before (first second : CellRef) : Prop :=
  first.table < second.table ∨ first.table = second.table ∧ first.row < second.row

theorem CellRef.Before.ne {first second : CellRef} (before : first.Before second) :
    second ≠ first := by
  rintro rfl
  unfold CellRef.Before at before
  omega

/-- Marks in the order of their rows, at most one for a row. -/
abbrev Increasing (marks : List (CellRef × Mark)) : Prop :=
  marks.Pairwise fun earlier later => earlier.1.Before later.1

/-- The first mark of a position is the only one. -/
theorem Increasing.lookup_eq {marks : List (CellRef × Mark)} (increasing : Increasing marks)
    {cell : CellRef × Mark} (member : cell ∈ marks) : marks.lookup cell.1 = some cell.2 := by
  induction marks with
  | nil => exact absurd member List.not_mem_nil
  | cons first marks inductionHypothesis =>
      obtain ⟨ahead, later⟩ := List.pairwise_cons.mp increasing
      obtain ⟨position, mark⟩ := first
      rcases List.mem_cons.mp member with here | behind
      · rw [here, List.lookup_cons_self]
      · have elsewhere : (cell.1 == position) = false :=
          beq_false_of_ne (ahead cell behind).ne
        rw [List.lookup_cons, elsewhere]
        exact inductionHypothesis later behind

/-! ## Rows of a table -/

/-- Marks stand in some rows of a table, in increasing order. -/
structure InRows (table row count : Nat) (marks : List (CellRef × Mark)) : Prop where
  increasing : Increasing marks
  table : ∀ cell ∈ marks, cell.1.table = table
  rows : ∀ cell ∈ marks, row ≤ cell.1.row ∧ cell.1.row < row + count

namespace InRows

theorem nil (table row count : Nat) : InRows table row count [] :=
  ⟨.nil, nofun, nofun⟩

theorem single (table row count cell : Nat) (mark : Mark) :
    InRows table row (count + 1) [(⟨table, row, cell⟩, mark)] where
  increasing := List.pairwise_singleton ..
  table := List.forall_mem_singleton.mpr rfl
  rows := List.forall_mem_singleton.mpr
    ⟨Nat.le_refl row, Nat.lt_add_of_pos_right (Nat.succ_pos count)⟩

variable {table row count more : Nat} {marks back : List (CellRef × Mark)}

theorem append (front : InRows table row count marks)
    (behind : InRows table (row + count) more back) :
    InRows table row (count + more) (marks ++ back) where
  increasing := by
    refine List.pairwise_append.mpr ⟨front.increasing, behind.increasing, ?_⟩
    intro earlier isEarlier later isLater
    have above := (front.rows earlier isEarlier).2
    have below := (behind.rows later isLater).1
    refine .inr ⟨?_, by omega⟩
    rw [front.table earlier isEarlier, behind.table later isLater]
  table := List.forall_mem_append.mpr ⟨front.table, behind.table⟩
  rows := by
    refine List.forall_mem_append.mpr ⟨?_, ?_⟩
    · intro cell member
      have bounds := front.rows cell member
      omega
    · intro cell member
      have bounds := behind.rows cell member
      omega

/-- Rows that stand elsewhere in the table have none of these marks. -/
theorem filter_other (inRows : InRows table row count marks) {other : Nat}
    (elsewhere : other < row ∨ row + count ≤ other) :
    marks.filter (fun cell => cell.1.row = other) = [] := by
  rw [List.filter_eq_nil_iff]
  intro cell member
  have bounds := inRows.rows cell member
  simp only [decide_eq_true_eq]
  omega

end InRows

/-! ## Tables -/

/-- Marks stand in the rows of some tables, in increasing order. -/
structure InTables (index : Nat) (tables : List (Tree String))
    (marks : List (CellRef × Mark)) : Prop where
  increasing : Increasing marks
  inside : ∀ cell ∈ marks, ∃ offset table row, cell.1.table = index + offset ∧
    tables[offset]? = some table ∧ table.branches[cell.1.row]? = some row

namespace InTables

variable {index : Nat} {tables : List (Tree String)} {marks back : List (CellRef × Mark)}

theorem nil : InTables index [] [] :=
  ⟨.nil, nofun⟩

theorem bounds (inTables : InTables index tables marks) {cell : CellRef × Mark}
    (member : cell ∈ marks) :
    index ≤ cell.1.table ∧ cell.1.table < index + tables.length := by
  obtain ⟨offset, table, _, position, found, _⟩ := inTables.inside cell member
  have inRange := (List.getElem?_eq_some_iff.mp found).1
  omega

theorem cons {table : Tree String} (own : InRows index 0 table.branches.length marks)
    (behind : InTables (index + 1) tables back) :
    InTables index (table :: tables) (marks ++ back) where
  increasing := by
    refine List.pairwise_append.mpr ⟨own.increasing, behind.increasing, ?_⟩
    intro earlier isEarlier later isLater
    have here := own.table earlier isEarlier
    have below := (behind.bounds isLater).1
    exact .inl (by omega)
  inside := by
    refine List.forall_mem_append.mpr ⟨?_, ?_⟩
    · intro cell member
      have inRange : cell.1.row < table.branches.length := by
        have bounds := own.rows cell member
        omega
      exact ⟨0, table, _, own.table cell member, rfl, List.getElem?_eq_getElem inRange⟩
    · intro cell member
      obtain ⟨offset, found, row, position, listed, isRow⟩ := behind.inside cell member
      exact ⟨offset + 1, found, row, by omega, listed, isRow⟩

/-- Tables that stand elsewhere have none of these marks. -/
theorem filter_other (inTables : InTables index tables marks) {other : Nat}
    (elsewhere : other < index ∨ index + tables.length ≤ other) :
    marks.filter (fun cell => cell.1.table = other) = [] := by
  rw [List.filter_eq_nil_iff]
  intro cell member
  have bounds := inTables.bounds member
  simp only [decide_eq_true_eq]
  omega

end InTables

/-! ## Reports -/

/-- The marks of a report stand in its tables, in increasing order, and each one is found. -/
structure Report.InPlace (report : Report) (tables : List (Tree String)) : Prop where
  increasing : Increasing report.cells
  inside : ∀ cell ∈ report.cells, ∃ table row,
    tables[cell.1.table]? = some table ∧ table.branches[cell.1.row]? = some row
  found : ∀ cell ∈ report.cells, report.markAt? cell.1 = some cell.2

theorem InTables.inPlace {report : Report} {tables : List (Tree String)}
    (inTables : InTables 0 tables report.cells) : report.InPlace tables where
  increasing := inTables.increasing
  inside := by
    intro cell member
    obtain ⟨offset, table, row, position, listed, isRow⟩ := inTables.inside cell member
    rw [Nat.zero_add] at position
    exact ⟨table, row, position ▸ listed, isRow⟩
  found := fun _ member => inTables.increasing.lookup_eq member

end ListInvocation.Table
