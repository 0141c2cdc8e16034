import ListInvocation.Proofs.Session.Tables
import ListInvocation.Proofs.Steps
import ListInvocation.Platform

/-!
Contract: class names keep their meaning while paths are imported.

Owns: the paths that a run imported, instructions that import, the classes that names stand
for behind some imports, and that further imports change none of them.

Does not own: the search for a name, or what else an operation does.
-/

namespace ListInvocation.Session

open Registry

variable {session : Session} {imported : List String}

/-! ## Imported paths -/

/-- The paths imported since everything was last released, behind one more step. -/
def Step.imports (imported : List String) : Step → List String
  | .run (.importPath path) => imported ++ [path]
  | .run _ => imported
  | .finish => []

/-- The paths that commands imported since they last released everything, with all
repetitions and the first one first. -/
def importsOf (commands : List Command) : List String :=
  (commands.flatMap Command.steps).foldl Step.imports []

theorem searchPath_foldl_importPath (firsts : session.searchPath = imported.eraseDups)
    (paths : List String) :
    (paths.foldl importPath session).searchPath = (imported ++ paths).eraseDups := by
  induction paths generalizing session imported with
  | nil => rw [List.append_nil]; exact firsts
  | cons path paths inductionHypothesis =>
      rw [← List.singleton_append, ← List.append_assoc]
      exact inductionHypothesis (searchPath_importPath firsts path)

/-- Imports change nothing but the search path. -/
theorem foldl_importPath_eq (session : Session) (paths : List String) :
    paths.foldl importPath session =
      { session with searchPath := (paths.foldl importPath session).searchPath } := by
  induction paths generalizing session with
  | nil => rfl
  | cons path paths inductionHypothesis =>
      rw [List.foldl_cons, inductionHypothesis, importPath_eq]

variable [Text.Alphabet]

/-- Only imports and the release of everything change the search path. -/
theorem searchPath_take (firsts : session.searchPath = imported.eraseDups) (step : Step) :
    (session.take step).searchPath = (step.imports imported).eraseDups := by
  cases step with
  | finish => rfl
  | run operation =>
      show (session.run operation).2.searchPath = _
      have ends := session.run_ends operation
      generalize session.run operation = ended at ends ⊢
      cases ends with
      | imported => exact searchPath_importPath firsts _
      | unmade _ => exact firsts
      | made _ _ => exact firsts
      | called => exact firsts
      | unassigned _ => exact firsts
      | assigned _ => exact firsts
      | bound => exact firsts

theorem searchPath_foldl_take (firsts : session.searchPath = imported.eraseDups)
    (steps : List Step) :
    (steps.foldl take session).searchPath = (steps.foldl Step.imports imported).eraseDups := by
  induction steps generalizing session imported with
  | nil => exact firsts
  | cons step steps inductionHypothesis =>
      exact inductionHypothesis (searchPath_take firsts step)

/-! ## Instructions that import -/

/-- An instruction imports a path. -/
def Imports (tree : Tree String) (path : String) : Prop :=
  ∃ id, Instruction.decode tree = .ok ⟨id, .importPath path⟩

theorem executeInstruction_of_imports {tree : Tree String} {path : String}
    (imports : Imports tree path) :
    (session.executeInstruction tree).2 = session.importPath path := by
  obtain ⟨id, decoded⟩ := imports
  rw [executeInstruction_of_ok decoded]
  rfl

theorem executeAll_of_imports {trees : List (Tree String)} {paths : List String}
    (importing : List.Forall₂ Imports trees paths) :
    (session.executeAll trees).2 = paths.foldl importPath session := by
  induction importing generalizing session with
  | nil => rfl
  | cons here _ inductionHypothesis =>
      rw [executeAll_cons, executeInstruction_of_imports here]
      exact inductionHypothesis

/-! ## Class names -/

/-- What class names stand for in a session that imported some paths. -/
structure Searches (registry : Registry) (session : Session) (imported : List String) :
    Prop where
  /-- Each path is kept once, where it was first imported. -/
  searchPath : session.searchPath = imported.eraseDups
  /-- A name that is registered literally stands for that class. -/
  literal : ∀ className fixture,
    registry.find? (session.symbols.substituteText className) = some fixture →
    session.classFor className = .ok fixture
  /-- Any other name stands for the class below the earliest path that has it. -/
  names : ∀ className fixture, session.classFor className = .ok fixture ↔
    registry.Names imported (session.symbols.substituteText className) fixture
  /-- The stored path finds what all imports in their order find. -/
  stored : ∀ name, (registry.resolve name session.searchPath).toOption =
    (registry.resolve name imported).toOption
  /-- A repeated import changes nothing. -/
  repeated : ∀ tree path, Imports tree path → path ∈ imported →
    (session.executeInstruction tree).2 = session

theorem searches_of_firsts (firsts : session.searchPath = imported.eraseDups) :
    Searches session.registry session imported := by
  have stored : ∀ name, (session.registry.resolve name session.searchPath).toOption =
      (session.registry.resolve name imported).toOption := by
    intro name
    rw [firsts, toOption_resolve_eraseDups]
  refine ⟨firsts, ?_, ?_, stored, ?_⟩
  · intro className fixture found
    exact resolve_of_literal found session.searchPath
  · intro className fixture
    rw [← resolve_eq_ok_iff, classFor]
    have same := stored (session.symbols.substituteText className)
    constructor <;> intro resolved <;> rw [resolved] at same
    · exact eq_ok_of_toOption same.symm
    · exact eq_ok_of_toOption same
  · intro tree path imports known
    have member : path ∈ session.searchPath := firsts ▸ List.mem_eraseDups.mpr known
    rw [executeInstruction_of_imports imports, importPath,
      if_pos (List.contains_iff_mem.mpr member)]

/-- Whatever a session did before, further imports change the class of no name that stood for
one: names are searched below all paths in the order of their first imports. -/
theorem classFor_stable (registry : Registry) (dialect : Dialect) (commands : List Command)
    {trees : List (Tree String)} {paths : List String}
    (importing : List.Forall₂ Imports trees paths) :
    let session := (start registry dialect).performAll commands
    let later := (session.executeAll trees).2
    session.Searches registry (importsOf commands) ∧
      later.Searches registry (importsOf commands ++ paths) ∧
      ∀ className fixture, session.classFor className = .ok fixture →
        later.classFor className = .ok fixture ∧
          ∀ arguments bound, later.construct className arguments = .ok bound →
            bound.fixture = fixture := by
  intro session later
  have setting : session.registry = registry := by
    simp only [session, performAll_eq_foldl]
    exact (foldl_take_setting (start registry dialect) _).1
  have firsts : session.searchPath = (importsOf commands).eraseDups := by
    simp only [session, performAll_eq_foldl]
    exact searchPath_foldl_take rfl _
  have lasts : later.searchPath = (importsOf commands ++ paths).eraseDups := by
    simp only [later, executeAll_of_imports importing]
    exact searchPath_foldl_importPath firsts paths
  have kept : later.registry = session.registry ∧ later.symbols = session.symbols := by
    simp only [later, executeAll_of_imports importing]
    rw [foldl_importPath_eq]
    exact ⟨rfl, rfl⟩
  have before := searches_of_firsts firsts
  have behind := searches_of_firsts lasts
  rw [setting] at before
  rw [kept.1, setting] at behind
  refine ⟨before, behind, ?_⟩
  intro className fixture resolved
  have still : later.classFor className = .ok fixture := by
    rw [behind.names, kept.2]
    exact ((before.names className fixture).mp resolved).append paths
  refine ⟨still, ?_⟩
  intro arguments bound constructed
  rw [classFor_of_construct constructed] at still
  exact Except.ok.inj still

end ListInvocation.Session

namespace ListInvocation.Session

open Registry

/-- A class below two paths, and one that is registered literally as well. -/
def ambiguous : Registry :=
  .ofClasses [⟨"old.Lamp", [], []⟩, ⟨"new.Lamp", [], []⟩, ⟨"new.Door", [], []⟩, ⟨"Door", [], []⟩]

def importAll (paths : List String) : List (Tree String) :=
  paths.map fun path => .list [.text "id", .text "import", .text path]

theorem classFor_stable_ambiguous :
    let session := (start ambiguous .standard).performAll [.importPath "spare", .importPath "old"]
    let later := (session.executeAll (importAll ["new", "old", "new"])).2
    List.Forall₂ Imports (importAll ["new", "old", "new"]) ["new", "old", "new"] ∧
      later.Searches ambiguous ["spare", "old", "new", "old", "new"] ∧
      later.searchPath = ["spare", "old", "new"] ∧
      (later.classFor "Lamp").toOption.map FixtureClass.name = some "old.Lamp" ∧
      (later.classFor "Door").toOption.map FixtureClass.name = some "Door" := by
  have importing : List.Forall₂ Imports (importAll ["new", "old", "new"]) ["new", "old", "new"] :=
    .cons ⟨"id", rfl⟩ (.cons ⟨"id", rfl⟩ (.cons ⟨"id", rfl⟩ .nil))
  obtain ⟨_, searches, _⟩ := classFor_stable ambiguous .standard
    [.importPath "spare", .importPath "old"] importing
  exact ⟨importing, searches, by decide +kernel, by decide +kernel, by decide +kernel⟩

end ListInvocation.Session
