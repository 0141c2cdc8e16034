import ListInvocation.Fixture.Sample
import ListInvocation.Table.Runner
import ListInvocation.Proofs.Table.InstructionTable
import ListInvocation.Proofs.Table.Script
import ListInvocation.Platform

/-!
Contract: whatever a run does, its report adds up.

Owns: the reports of both standard runners, and the report of tables that no runner accepts.

Does not own: the order in which runners are asked.
-/

namespace ListInvocation.Table

/-! ## Reports of runners -/

namespace Runner

theorem exists_addsUp_of_next {registry : Registry} {dialect : Dialect} {progress : Progress}
    (marked : ∃ session marks, progress = (Progress.start registry dialect).next session marks) :
    ∃ counts, progress.finish.AddsUp counts := by
  obtain ⟨session, marks, made⟩ := marked
  rw [made]
  exact (Progress.finish_next_start registry dialect session marks).1

/-- Tables that no runner accepts are not reported at all. -/
theorem dispatch_of_refused {runners : List Runner} {tables : Tree String}
    (refused : ∀ runner ∈ runners, runner.accepts tables = false) :
    dispatch runners tables = .failed (.operatorMissing .runTest (.list .any)) := by
  have none : runners.find? (fun runner => runner.accepts tables) = none := by
    rw [List.find?_eq_none]
    intro runner member accepted
    rw [refused runner member] at accepted
    contradiction
  rw [dispatch, none]

variable [Text.Alphabet]

theorem script_addsUp (registry : Registry) (dialect : Dialect) (tables : Tree String) :
    ∃ counts, ((script registry dialect).run tables).AddsUp counts :=
  exists_addsUp_of_next ⟨_, _, Script.runTables_eq 0 (.start registry dialect) tables.branches⟩

theorem instructions_addsUp (registry : Registry) (dialect : Dialect) (tables : Tree String) :
    ∃ counts, ((instructions registry dialect).run tables).AddsUp counts := by
  obtain ⟨marks, _, ran⟩ :=
    InstructionTable.runTables_reported tables.branches 0 (.start registry dialect)
  exact exists_addsUp_of_next ⟨_, marks, ran⟩

/-- Both standard runners report any tables with counts that add up, and tables that no
runner accepts leave the reader without a notice. -/
theorem run_addsUp (registry : Registry) (dialect : Dialect) (tables : Tree String) :
    (∀ runner ∈ [script registry dialect, instructions registry dialect],
        ∃ counts, (runner.run tables).AddsUp counts) ∧
      ∀ runners : List Runner, (∀ runner ∈ runners, runner.accepts tables = false) →
        (dispatch runners tables).notices = [] := by
  refine ⟨?_, ?_⟩
  · simp only [List.forall_mem_cons]
    exact ⟨script_addsUp registry dialect tables, instructions_addsUp registry dialect tables,
      nofun⟩
  · intro runners refused
    rw [dispatch_of_refused refused]
    rfl

end Runner

end ListInvocation.Table

namespace ListInvocation.Table.Runner

/-- A script whose rows are marked in every way, and a table that is no script. -/
def everyMark : List (Tree String) :=
  [.list [
      Tree.textList ["script", "demo.Calculator"],
      Tree.textList ["add", "5"],
      Tree.textList ["check", "total", "5"],
      Tree.textList ["check not", "total", "5"],
      Tree.textList ["show", "total"],
      Tree.textList ["fly"]],
    .list [Tree.textList ["comment", "script"]]]

/-- Marks of all five kinds add up; the same tables in the other order are accepted by neither
standard runner, and nothing is reported. -/
theorem run_addsUp_everyMark :
    let runners := [script Sample.registry .standard, instructions Sample.registry .standard]
    let report := (script Sample.registry .standard).run (.list everyMark)
    report.cells.map (fun cell => cell.2.kind) =
        [.right, .wrong, .shown, .exception, .ignored] ∧
      (∃ counts, report.AddsUp counts ∧ counts.Exact (report.cells.map Prod.snd)) ∧
      (∀ runner ∈ runners, runner.accepts (.list everyMark.reverse) = false) ∧
      (dispatch runners (.list everyMark.reverse)).notices = [] := by
  intro runners report
  have refused : ∀ runner ∈ runners, runner.accepts (.list everyMark.reverse) = false := by
    simp only [runners, List.forall_mem_cons]
    exact ⟨by decide +kernel, by decide +kernel, nofun⟩
  obtain ⟨counts, addsUp⟩ := (run_addsUp Sample.registry .standard (.list everyMark)).1
    (script Sample.registry .standard) List.mem_cons_self
  have few : report.cells.length < 2 ^ 63 := by decide +kernel
  exact ⟨by decide +kernel, ⟨counts, addsUp, addsUp.exact few⟩, refused,
    (run_addsUp Sample.registry .standard (.list everyMark.reverse)).2 runners refused⟩

end ListInvocation.Table.Runner
