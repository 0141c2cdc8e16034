import ListInvocation.Table.Script
import ListInvocation.Table.InstructionTable

/-!
Contract: the choice of a runner for some tables.

Owns: runners, the two standard ones, and dispatch to the first that accepts.

Does not own: how a runner works.
-/

namespace ListInvocation.Table

structure Runner where
  accepts : Tree String → Bool
  run : Tree String → Report

namespace Runner

variable [Text.Alphabet]

def script (registry : Registry) (dialect : Dialect) : Runner :=
  ⟨Script.accepts, Script.run registry dialect⟩

def instructions (registry : Registry) (dialect : Dialect) : Runner :=
  ⟨InstructionTable.accepts, InstructionTable.run registry dialect⟩

/-- Runs tables by the first runner that accepts them. -/
def dispatch (runners : List Runner) (tables : Tree String) : Report :=
  match runners.find? (fun runner => runner.accepts tables) with
  | some runner => runner.run tables
  | none => .failed (.operatorMissing .runTest (.list .any))

end Runner

end ListInvocation.Table
