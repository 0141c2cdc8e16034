import Mathlib.Algebra.GroupWithZero.Nat
import ListInvocation.Table.Report

/-!
Contract: a report adds up.

Owns: the numbers of marks by kind, running counts as the tally of the marks made so far,
the form of counts as a value and its reading, and what the report of a run owes its reader.

Does not own: which marks a run makes.
-/

namespace ListInvocation.Table

/-! ## Marks by kind -/

inductive MarkKind where
  | right
  | wrong
  | ignored
  | exception
  | shown
deriving DecidableEq

def Mark.kind : Mark → MarkKind
  | .right => .right
  | .wrong _ => .wrong
  | .ignored => .ignored
  | .exception _ => .exception
  | .shown _ => .shown

def numberOf (kind : MarkKind) (marks : List Mark) : Nat :=
  (marks.map Mark.kind).count kind

section NumberOf

variable (kind : MarkKind) (mark : Mark) (marks more : List Mark)

@[simp] theorem numberOf_nil : numberOf kind [] = 0 := rfl

theorem numberOf_cons :
    numberOf kind (mark :: marks) =
      numberOf kind marks + if mark.kind = kind then 1 else 0 := by
  simp [numberOf, List.count_cons]

theorem numberOf_append :
    numberOf kind (marks ++ more) = numberOf kind marks + numberOf kind more := by
  simp [numberOf]

theorem numberOf_le_length : numberOf kind marks ≤ marks.length := by
  simpa [numberOf] using List.count_le_length (a := kind) (l := marks.map Mark.kind)

theorem numberOf_eq_zero_iff :
    numberOf kind marks = 0 ↔ ∀ mark ∈ marks, mark.kind ≠ kind := by
  simp [numberOf, List.count_eq_zero]

/-- Every mark is of one of the five kinds. -/
theorem numberOf_total :
    numberOf .right marks + numberOf .wrong marks + numberOf .ignored marks +
      numberOf .exception marks + numberOf .shown marks = marks.length := by
  induction marks with
  | nil => rfl
  | cons mark marks inductionHypothesis =>
      simp only [numberOf_cons, List.length_cons]
      cases mark <;> simp only [Mark.kind, reduceCtorEq, if_true, if_false] <;> omega

end NumberOf

/-! ## Counts -/

namespace Counts

variable {counts : Counts} {marks : List Mark}

/-- Counts are the tally of some marks, in 64 bits. -/
structure Tallies (counts : Counts) (marks : List Mark) : Prop where
  right : counts.right = UInt64.ofNat (numberOf .right marks)
  wrong : counts.wrong = UInt64.ofNat (numberOf .wrong marks)
  ignores : counts.ignores = UInt64.ofNat (numberOf .ignored marks)
  exceptions : counts.exceptions = UInt64.ofNat (numberOf .exception marks)

theorem zero_tallies : zero.Tallies [] := ⟨rfl, rfl, rfl, rfl⟩

/-- One more mark is counted under its kind, and under no other. -/
theorem Tallies.tally (tallied : counts.Tallies marks) (mark : Mark) :
    (counts.tally mark).Tallies (marks ++ [mark]) := by
  obtain ⟨right, wrong, ignores, exceptions⟩ := tallied
  constructor <;> cases mark <;>
    simp [Counts.tally, numberOf_append, numberOf_cons, Mark.kind, UInt64.ofNat_add, *]

/-- Counts give the numbers of some marks, also to a reader who has them as a value. -/
structure Exact (counts : Counts) (marks : List Mark) : Prop where
  right : counts.right.toNat = numberOf .right marks
  wrong : counts.wrong.toNat = numberOf .wrong marks
  ignores : counts.ignores.toNat = numberOf .ignored marks
  exceptions : counts.exceptions.toNat = numberOf .exception marks
  total : counts.right.toNat + counts.wrong.toNat + counts.ignores.toNat +
    counts.exceptions.toNat + numberOf .shown marks = marks.length
  recovered : ofTypedValue? counts.toTypedValue = some counts
  passed : counts.passed = true ↔
    ∀ mark ∈ marks, mark.kind ≠ .wrong ∧ mark.kind ≠ .exception

/-- A count that fits a signed integer is read as it was written. -/
theorem countOf?_clamped {count : UInt64} (fits : count.toNat < 2 ^ 63) :
    countOf? (.int (clamped count)) = some count := by
  have number : (clamped count).toInt = count.toNat := by
    have limit : Int64.maxValue.toInt = 2 ^ 63 - 1 := by decide
    rw [clamped, if_pos (by omega)]
    exact Int64.toInt_ofNat_of_lt fits
  have read : countOf? (.int (clamped count)) =
      if 0 ≤ (clamped count).toInt then some (UInt64.ofNat (clamped count).toInt.toNat)
      else none := rfl
  rw [read, number, if_pos (Int.natCast_nonneg _), Int.toNat_natCast, UInt64.ofNat_toNat]

/-- Counts of fewer than 2^63 marks of each kind survive their form as a value. -/
theorem ofTypedValue?_toTypedValue (counts : Counts)
    (fit : ∀ count ∈ counts.toList, count.toNat < 2 ^ 63) :
    ofTypedValue? counts.toTypedValue = some counts := by
  have read : ofTypedValue? counts.toTypedValue = do
      return ⟨← countOf? (.int (clamped counts.right)), ← countOf? (.int (clamped counts.wrong)),
        ← countOf? (.int (clamped counts.ignores)),
        ← countOf? (.int (clamped counts.exceptions))⟩ := rfl
  simp only [toList, List.forall_mem_cons] at fit
  obtain ⟨right, wrong, ignores, exceptions, _⟩ := fit
  rw [read, countOf?_clamped right, countOf?_clamped wrong, countOf?_clamped ignores,
    countOf?_clamped exceptions]
  rfl

theorem passed_iff (counts : Counts) :
    counts.passed = true ↔ counts.wrong.toNat = 0 ∧ counts.exceptions.toNat = 0 := by
  simp [passed, ← UInt64.toNat_inj]

/-- A tally of fewer than 2^63 marks is exact. -/
theorem Tallies.exact (tallied : counts.Tallies marks) (few : marks.length < 2 ^ 63) :
    counts.Exact marks := by
  have fits (kind : MarkKind) : numberOf kind marks < 2 ^ 63 :=
    Nat.lt_of_le_of_lt (numberOf_le_length kind marks) few
  have number (kind : MarkKind) :
      (UInt64.ofNat (numberOf kind marks)).toNat = numberOf kind marks :=
    UInt64.toNat_ofNat_of_lt' (Nat.lt_trans (fits kind) (by decide))
  have right := tallied.right ▸ number .right
  have wrong := tallied.wrong ▸ number .wrong
  have ignores := tallied.ignores ▸ number .ignored
  have exceptions := tallied.exceptions ▸ number .exception
  refine ⟨right, wrong, ignores, exceptions, ?_, ?_, ?_⟩
  · rw [right, wrong, ignores, exceptions, numberOf_total]
  · apply ofTypedValue?_toTypedValue
    intro count member
    simp only [toList, List.mem_cons, List.not_mem_nil, or_false] at member
    rcases member with isRight | isWrong | isIgnores | isExceptions
    · rw [isRight, right]
      exact fits .right
    · rw [isWrong, wrong]
      exact fits .wrong
    · rw [isIgnores, ignores]
      exact fits .ignored
    · rw [isExceptions, exceptions]
      exact fits .exception
  · rw [passed_iff, wrong, exceptions, numberOf_eq_zero_iff, numberOf_eq_zero_iff]
    exact ⟨fun none mark member => ⟨none.1 mark member, none.2 mark member⟩,
      fun none => ⟨fun mark member => (none mark member).1,
        fun mark member => (none mark member).2⟩⟩

end Counts

/-! ## Reports -/

/-- A report adds up: the counts are told once, behind all marked cells, and are the result
as well; for fewer than 2^63 marks they are exact. -/
structure Report.AddsUp (report : Report) (counts : Counts) : Prop where
  told : report.notices =
    report.cells.map (fun cell => .cell cell.1 cell.2) ++ [.counts counts]
  result : report.result = .ok counts.toTypedValue
  tallied : counts.Tallies (report.cells.map Prod.snd)
  exact : report.cells.length < 2 ^ 63 → counts.Exact (report.cells.map Prod.snd)

namespace Reporter

variable {reporter : Reporter} {marks : List (CellRef × Mark)}

/-- A reporter has told some marks in order, and counted them. -/
structure Told (reporter : Reporter) (marks : List (CellRef × Mark)) : Prop where
  notices : reporter.notices = marks.map fun cell => .cell cell.1 cell.2
  counts : reporter.counts.Tallies (marks.map Prod.snd)

theorem start_told : start.Told [] := ⟨rfl, Counts.zero_tallies⟩

theorem Told.mark (told : reporter.Told marks) (position : CellRef) (mark : Mark) :
    (reporter.mark position mark).Told (marks ++ [(position, mark)]) := by
  constructor
  · simp [Reporter.mark, told.notices]
  · simpa [Reporter.mark] using told.counts.tally mark

theorem Told.markAll (told : reporter.Told marks) (more : List (CellRef × Mark)) :
    (reporter.markAll more).Told (marks ++ more) := by
  induction more generalizing reporter marks with
  | nil => simpa [Reporter.markAll] using told
  | cons first more inductionHypothesis =>
      have next := inductionHypothesis (told.mark first.1 first.2)
      rwa [List.append_assoc] at next

theorem markAll_append (reporter : Reporter) (marks more : List (CellRef × Mark)) :
    (reporter.markAll marks).markAll more = reporter.markAll (marks ++ more) :=
  List.foldl_append.symm

/-- The cells of a report are the marks that were told. -/
theorem Told.cells_finish (told : reporter.Told marks) : reporter.finish.cells = marks := by
  have cellsOf : ∀ marks : List (CellRef × Mark),
      (Report.mk (marks.map (fun cell => .cell cell.1 cell.2) ++ [.counts reporter.counts])
        (.ok reporter.counts.toTypedValue)).cells = marks := by
    intro marks
    induction marks with
    | nil => rfl
    | cons first marks inductionHypothesis =>
        exact congrArg (first :: ·) inductionHypothesis
  rw [finish, told.notices]
  exact cellsOf marks

theorem Told.finish_addsUp (told : reporter.Told marks) :
    reporter.finish.AddsUp reporter.counts := by
  have tallied : reporter.counts.Tallies (reporter.finish.cells.map Prod.snd) := by
    rw [told.cells_finish]
    exact told.counts
  refine ⟨?_, rfl, tallied, fun few => tallied.exact (by rwa [List.length_map])⟩
  rw [told.cells_finish, finish, told.notices]

end Reporter

/-! ## Progress -/

namespace Progress

/-- Two parts of a run are one part with the marks of both. -/
theorem next_next (progress : Progress) (between session : Session)
    (marks more : List (CellRef × Mark)) :
    (progress.next between marks).next session more = progress.next session (marks ++ more) := by
  rw [next, next, next, Reporter.markAll_append]

/-- The report of a run adds up, and its cells are the marks that the run made. -/
theorem finish_next_start (registry : Registry) (dialect : Dialect) (session : Session)
    (marks : List (CellRef × Mark)) :
    (∃ counts, ((start registry dialect).next session marks).finish.AddsUp counts) ∧
      ((start registry dialect).next session marks).finish.cells = marks := by
  have told : (Reporter.start.markAll marks).Told marks := Reporter.start_told.markAll marks
  exact ⟨⟨_, told.finish_addsUp⟩, told.cells_finish⟩

end Progress

end ListInvocation.Table
