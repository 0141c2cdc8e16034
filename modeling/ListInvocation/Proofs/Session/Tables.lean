import ListInvocation.Proofs.Fixture.Registry
import ListInvocation.Proofs.Session.Journal
import ListInvocation.Platform

/-!
Contract: the tables of a session are what its journal says.

Owns: what a journal says about bindings, their age and imported paths, the invariant that
ties instances and search path to it, its preservation by every step, and the tables after
every run.

Does not own: symbols, or the results of instructions.
-/

namespace ListInvocation

/-! ## Reading a journal -/

namespace Deed

/-- The instance under an identifier: that of its last make since everything was last
released, with its object as the bodies that ran on it since have left it. -/
def boundTo? (id : String) : (past : List Deed) → Option Instance
  | [] => none
  | .made other bound :: past => if other = id then some bound else boundTo? id past
  | .ran body :: past =>
      if body.id = id then (boundTo? id past).map body.after else boundTo? id past
  | .imported _ :: past => boundTo? id past
  | .finished :: _ => none

/-- When an identifier was last made since everything was last released: the number of
deeds before that. -/
def madeAt? (id : String) : (past : List Deed) → Option Nat
  | [] => none
  | .made other _ :: past => if other = id then some past.length else madeAt? id past
  | .ran _ :: past => madeAt? id past
  | .imported _ :: past => madeAt? id past
  | .finished :: _ => none

/-- The paths imported since everything was last released, the first one first. -/
def imports : (past : List Deed) → List String
  | [] => []
  | .made _ _ :: past => imports past
  | .ran _ :: past => imports past
  | .imported path :: past => imports past ++ [path]
  | .finished :: _ => []

/-- The last make of one identifier came before the last make of another one. -/
def MadeBefore (past : List Deed) (first second : String) : Prop :=
  ∃ earlier later, madeAt? first past = some earlier ∧ madeAt? second past = some later ∧
    earlier < later

theorem madeAt?_lt {id : String} {past : List Deed} {time : Nat}
    (made : madeAt? id past = some time) : time < past.length := by
  induction past with
  | nil => contradiction
  | cons deed past inductionHypothesis =>
      rw [List.length_cons]
      cases deed with
      | made other bound =>
          rw [madeAt?] at made
          split at made
          next => exact Option.some.inj made ▸ Nat.lt_succ_self _
          next => exact Nat.lt_succ_of_lt (inductionHypothesis made)
      | ran body => exact Nat.lt_succ_of_lt (inductionHypothesis made)
      | imported path => exact Nat.lt_succ_of_lt (inductionHypothesis made)
      | finished => contradiction

/-- What is bound was made. -/
theorem isSome_madeAt? (id : String) (past : List Deed) :
    (madeAt? id past).isSome = (boundTo? id past).isSome := by
  induction past with
  | nil => rfl
  | cons deed past inductionHypothesis =>
      cases deed with
      | made other bound =>
          rw [madeAt?, boundTo?]
          split
          next => rfl
          next => exact inductionHypothesis
      | ran body =>
          rw [madeAt?, boundTo?]
          split
          next => rw [Option.isSome_map, inductionHypothesis]
          next => exact inductionHypothesis
      | imported path => exact inductionHypothesis
      | finished => rfl

end Deed

open Deed

/-! ## Instances -/

/-- A table of instances is what a journal says, on some classes. -/
structure InstanceTable.TrueTo (registry : Registry) (past : List Deed)
    (table : InstanceTable) : Prop where
  inStep : table.InStep
  found : ∀ id, table.find? id = boundTo? id past
  sorted : table.order.Pairwise (MadeBefore past)
  registered : ∀ id bound, table.find? id = some bound →
    registry.find? bound.fixture.name = some bound.fixture

namespace InstanceTable

variable {registry : Registry} {past : List Deed} {table next : InstanceTable}

/-- After the release of everything, and before the first deed, the table is empty. -/
theorem trueTo_empty (nothingBound : ∀ id, boundTo? id past = none) :
    empty.TrueTo registry past where
  inStep := inStep_empty
  found id := (nothingBound id).symm
  sorted := .nil
  registered := nofun

/-- A new binding is younger than all others. -/
theorem TrueTo.bind (told : table.TrueTo registry past) (id : String) {bound : Instance}
    (known : registry.find? bound.fixture.name = some bound.fixture) :
    (table.bind id bound).TrueTo registry (.made id bound :: past) := by
  have madeNow : madeAt? id (.made id bound :: past) = some past.length := by
    rw [madeAt?, if_pos rfl]
  have madeThen : ∀ other, other ≠ id →
      madeAt? other (.made id bound :: past) = madeAt? other past := by
    intro other different
    rw [madeAt?, if_neg (Ne.symm different)]
  constructor
  case inStep => exact told.inStep.bind id bound
  case found =>
    intro other
    rw [boundTo?]
    by_cases same : id = other
    · rw [if_pos same, ← same, find?_bind_self]
    · rw [if_neg same, find?_bind_of_ne table (Ne.symm same), told.found]
  case sorted =>
    have others : ∀ other ∈ table.order.filter (fun existing => existing != id),
        other ∈ table.order ∧ other ≠ id := by
      intro other kept
      obtain ⟨listed, isOther⟩ := List.mem_filter.mp kept
      exact ⟨listed, bne_iff_ne.mp isOther⟩
    -- The other identifiers keep their times, and all these come before the present one.
    refine List.pairwise_append.mpr ⟨?_, List.pairwise_singleton _ id, ?_⟩
    · refine (told.sorted.filter _).imp_of_mem ?_
      intro first second firstKept secondKept before
      obtain ⟨earlier, later, firstMade, secondMade, ordered⟩ := before
      rw [← madeThen first (others first firstKept).2] at firstMade
      rw [← madeThen second (others second secondKept).2] at secondMade
      exact ⟨earlier, later, firstMade, secondMade, ordered⟩
    · intro other kept last added
      rw [List.mem_singleton.mp added]
      obtain ⟨listed, different⟩ := others other kept
      have isMade : (madeAt? other past).isSome = true := by
        rw [isSome_madeAt?, ← told.found]
        exact (told.inStep.mem_order_iff other).mp listed
      obtain ⟨time, made⟩ := Option.isSome_iff_exists.mp isMade
      exact ⟨time, past.length, (madeThen other different).trans made, madeNow,
        madeAt?_lt made⟩
  case registered =>
    intro other found isFound
    by_cases same : other = id
    · rw [same, find?_bind_self] at isFound
      rw [← Option.some.inj isFound]
      exact known
    · rw [find?_bind_of_ne table same] at isFound
      exact told.registered other found isFound

/-- A body changes the object that it ran on, and neither its class nor its place. -/
theorem TrueTo.body (told : table.TrueTo registry past) {body : Body}
    (moves : table.Moves (some body) next) : next.TrueTo registry (.ran body :: past) := by
  cases moves with
  | @body _ bound isBound _ =>
      constructor
      case inStep => exact told.inStep.withObject body.id _
      case found =>
        intro other
        rw [boundTo?]
        by_cases same : body.id = other
        · rw [if_pos same, ← same, find?_withObject_self, ← told.found, isBound]
          rfl
        · rw [if_neg same, find?_withObject_of_ne table (Ne.symm same), told.found]
      case sorted => exact told.sorted
      case registered =>
        intro other found isFound
        by_cases same : other = body.id
        · rw [same, find?_withObject_self, isBound] at isFound
          rw [← Option.some.inj isFound]
          exact told.registered body.id bound isBound
        · rw [find?_withObject_of_ne table same] at isFound
          exact told.registered other found isFound

theorem TrueTo.moves (told : table.TrueTo registry past) {body? : Option Body}
    (moves : table.Moves body? next) :
    next.TrueTo registry ((body?.map Deed.ran).toList ++ past) := by
  cases body? with
  | none =>
      cases moves
      exact told
  | some body => exact told.body moves

theorem TrueTo.imported (told : table.TrueTo registry past) (path : String) :
    table.TrueTo registry (.imported path :: past) :=
  ⟨told.inStep, told.found, told.sorted, told.registered⟩

end InstanceTable

/-! ## Search path -/

namespace Session

/-- A search path is what a journal says: the imported paths, each where it was first
imported. -/
structure PathsTrueTo (past : List Deed) (searchPath : List String) : Prop where
  firsts : searchPath = (imports past).eraseDups
  nodup : searchPath.Nodup

theorem pathsTrueTo_nil {past : List Deed} (nothingImported : imports past = []) :
    PathsTrueTo past [] :=
  ⟨by rw [nothingImported]; rfl, List.nodup_nil⟩

/-- An import keeps the search path that of all imports, each where it came first. -/
theorem searchPath_importPath {session : Session} {imported : List String}
    (firsts : session.searchPath = imported.eraseDups) (path : String) :
    (session.importPath path).searchPath = (imported ++ [path]).eraseDups := by
  rw [List.eraseDups_append, ← firsts]
  -- The session looks a path up in its search path, not in the imports themselves.
  by_cases known : path ∈ session.searchPath
  · have before : path ∈ imported := List.mem_eraseDups.mp (firsts ▸ known)
    have nothingNew : [path].removeAll imported = [] := by simp [List.removeAll, before]
    rw [importPath, if_pos (List.contains_iff_mem.mpr known), nothingNew]
    exact (List.append_nil _).symm
  · have before : path ∉ imported := fun member =>
      known (firsts ▸ List.mem_eraseDups.mpr member)
    have isNew : [path].removeAll imported = [path] := by simp [List.removeAll, before]
    rw [importPath, if_neg fun member => known (List.contains_iff_mem.mp member), isNew]
    rfl

theorem nodup_importPath {session : Session} (nodup : session.searchPath.Nodup)
    (path : String) : (session.importPath path).searchPath.Nodup := by
  by_cases known : path ∈ session.searchPath
  · rw [importPath, if_pos (List.contains_iff_mem.mpr known)]
    exact nodup
  · rw [importPath, if_neg fun member => known (List.contains_iff_mem.mp member)]
    refine List.nodup_append.mpr ⟨nodup, List.nodup_singleton path, ?_⟩
    intro other member last added same
    rw [same, List.mem_singleton.mp added] at member
    exact known member

theorem PathsTrueTo.imported {session : Session} {past : List Deed}
    (told : PathsTrueTo past session.searchPath) (path : String) :
    PathsTrueTo (.imported path :: past) (session.importPath path).searchPath :=
  ⟨searchPath_importPath told.firsts path, nodup_importPath told.nodup path⟩

/-! ## Steps -/

/-- The tables of a session are what a journal says. -/
structure TrueTo (past : List Deed) (session : Session) : Prop where
  instances : session.instances.TrueTo session.registry past
  searchPath : PathsTrueTo past session.searchPath

variable {registry : Registry} {dialect : Dialect} {session : Session} {past : List Deed}

/-- Everything is released at the end of a session, as nothing is there at its start. -/
theorem trueTo_start (nothingBound : ∀ id, boundTo? id past = none)
    (nothingImported : imports past = []) : (start registry dialect).TrueTo past :=
  ⟨InstanceTable.trueTo_empty nothingBound, pathsTrueTo_nil nothingImported⟩

variable [Text.Alphabet]

theorem registered_of_construct {className : String} {arguments : List (Tree String)}
    {bound : Instance} (constructed : session.construct className arguments = .ok bound) :
    session.registry.find? bound.fixture.name = some bound.fixture :=
  Registry.find?_name_of_resolve (classFor_of_construct constructed)

/-- A call changes no more than the instances, as far as the tables go, and its assignment
none of them. -/
theorem tables_of_calls (session : Session) {operation : Operation} {target member : String}
    {arguments : List (Tree String)} (calls : operation.Calls target member arguments) :
    (session.run operation).2.instances = (session.call target member arguments).2.instances ∧
      (session.run operation).2.searchPath = session.searchPath := by
  cases calls with
  | call => exact ⟨rfl, rfl⟩
  | callAndAssign symbol =>
      cases composed : (session.callComposed target member arguments).1 with
      | error failure =>
          rw [run_callAndAssign_of_error composed]
          exact ⟨rfl, rfl⟩
      | ok tree =>
          rw [run_callAndAssign_of_ok composed]
          exact ⟨rfl, rfl⟩

/-- An operation leaves the tables as its deeds say. -/
theorem TrueTo.does (told : session.TrueTo past) {operation : Operation} {deeds : List Deed}
    (does : session.Does operation deeds) :
    (session.run operation).2.TrueTo (deeds ++ past) := by
  cases does with
  | unmade failed =>
      rw [run_make_of_error failed]
      exact told
  | @made target _ _ bound constructed =>
      rw [run_make_of_ok constructed]
      exact ⟨told.instances.bind target (registered_of_construct constructed),
        told.searchPath.firsts, told.searchPath.nodup⟩
  | @called _ _ _ _ body? calls moves =>
      obtain ⟨sameInstances, sameSearchPath⟩ := session.tables_of_calls calls
      have sameRegistry := (session.run_setting operation).1
      constructor
      case instances =>
        rw [sameInstances, sameRegistry]
        exact told.instances.moves moves
      case searchPath =>
        rw [sameSearchPath]
        cases body? with
        | none => exact told.searchPath
        | some body => exact ⟨told.searchPath.firsts, told.searchPath.nodup⟩
  | @imported path =>
      have ended : (session.run (.importPath path)).2 =
          { session with searchPath := (session.importPath path).searchPath } :=
        session.importPath_eq path
      rw [ended]
      exact ⟨told.instances.imported path, told.searchPath.imported path⟩
  | assigned => exact ⟨told.instances, told.searchPath⟩

/-- Steps leave the tables as the journal of the run says. -/
theorem TrueTo.journal (told : session.TrueTo past) {steps : List Step} {all : List Deed}
    (journal : Journal session past steps all) : (steps.foldl take session).TrueTo all := by
  induction journal with
  | nil => exact told
  | run does _ inductionHypothesis => exact inductionHypothesis (told.does does)
  | finish _ inductionHypothesis => exact inductionHypothesis (trueTo_start (fun _ => rfl) rfl)

/-! ## Runs -/

/-- What a caller can count on in the tables of a session with a journal. -/
structure Tables (registry : Registry) (past : List Deed) (session : Session) : Prop where
  order_nodup : session.instances.order.Nodup
  /-- Exactly the bound identifiers are in the order. -/
  mem_order : ∀ id, id ∈ session.instances.order ↔ session.instances.contains id = true
  size : session.instances.size = session.instances.order.length
  /-- The identifier that was last made earliest comes first. -/
  order_sorted : session.instances.order.Pairwise (MadeBefore past)
  /-- A binding holds the class and the object of the last make. -/
  found : ∀ id, session.instances.find? id = boundTo? id past
  mem_libraryIds : ∀ id, id ∈ session.instances.libraryIds ↔
    session.instances.contains id = true ∧ InstanceTable.isLibraryId id = true
  libraryIds_nodup : session.instances.libraryIds.Nodup
  libraryIds_sorted : session.instances.libraryIds.Pairwise fun younger older =>
    MadeBefore past older younger
  /-- A class is the one that is registered under its name. -/
  registered : ∀ id bound, session.instances.find? id = some bound →
    registry.find? bound.fixture.name = some bound.fixture
  searchPath_nodup : session.searchPath.Nodup
  /-- Paths stand where they were first imported. -/
  searchPath_firsts : session.searchPath = (imports past).eraseDups

omit [Text.Alphabet] in
theorem TrueTo.tables (told : session.TrueTo past) : session.Tables session.registry past where
  order_nodup := told.instances.inStep.nodup
  mem_order := told.instances.inStep.mem_order_iff
  size := told.instances.inStep.size_eq
  order_sorted := told.instances.sorted
  found := told.instances.found
  mem_libraryIds id := by
    rw [InstanceTable.libraryIds, List.mem_filter, List.mem_reverse,
      told.instances.inStep.mem_order_iff]
  libraryIds_nodup := (List.nodup_reverse.mpr told.instances.inStep.nodup).filter _
  libraryIds_sorted := (List.pairwise_reverse.mpr told.instances.sorted).filter _
  registered := told.instances.registered
  searchPath_nodup := told.searchPath.nodup
  searchPath_firsts := told.searchPath.firsts

/-- No command changes the classes and rules that a session works with. -/
theorem foldl_take_setting (session : Session) (steps : List Step) :
    (steps.foldl take session).registry = session.registry ∧
      (steps.foldl take session).dialect = session.dialect := by
  induction steps generalizing session with
  | nil => exact ⟨rfl, rfl⟩
  | cons step steps inductionHypothesis =>
      have later := inductionHypothesis (session.take step)
      cases step with
      | run operation =>
          have now := session.run_setting operation
          exact ⟨later.1.trans now.1, later.2.trans now.2⟩
      | finish => exact later

/-- Whatever is asked of a session, its tables are what the journal of the run says, and
behind the end of a session they are those of a new one. -/
theorem performAll_tables (registry : Registry) {dialect : Dialect}
    (members : ∀ rule ∈ dialect.invokeRules, rule.RunsMember) (commands : List Command) :
    (∃ past, Journal (start registry dialect) [] (commands.flatMap Command.steps) past) ∧
      (∀ past, Journal (start registry dialect) [] (commands.flatMap Command.steps) past →
        ((start registry dialect).performAll commands).Tables registry past) ∧
      (start registry dialect).performAll (commands ++ [.finish]) = start registry dialect := by
  have setting := foldl_take_setting (start registry dialect) (commands.flatMap Command.steps)
  rw [← performAll_eq_foldl] at setting
  refine ⟨exists_journal members [] _, ?_, ?_⟩
  · intro past journal
    have atStart : (start registry dialect).TrueTo [] := trueTo_start (fun _ => rfl) rfl
    have told := (atStart.journal journal).tables
    rw [← performAll_eq_foldl, setting.1] at told
    exact told
  · rw [performAll, List.foldl_append]
    change start ((start registry dialect).performAll commands).registry
      ((start registry dialect).performAll commands).dialect = start registry dialect
    rw [setting.1, setting.2]
    rfl

end Session

end ListInvocation

namespace ListInvocation.Session

open Deed

/-- A calculator is bound, a library is bound, the calculator is bound again, and a make of
an unknown class fails. -/
def rebinding : List Command := [
  .importPath "demo",
  .make "c" "Calculator" [],
  .make "library.c" "Helper" [.text "hello"],
  .batch (.list [
    .list [.text "1", .text "make", .text "c", .text "Calculator", .text "7"],
    .list [.text "2", .text "make", .text "library.c", .text "Missing"],
    .list [.text "3", .text "call", .text "c", .text "add", .text "5"]])]

theorem performAll_tables_rebinding :
    (∀ rule ∈ Dialect.standard.invokeRules, rule.RunsMember) ∧
      ((start Sample.registry .standard).performAll rebinding).instances.order =
        ["library.c", "c"] ∧
      ∃ past, Journal (start Sample.registry .standard) []
          (rebinding.flatMap Command.steps) past ∧
        ((start Sample.registry .standard).performAll rebinding).Tables Sample.registry past := by
  have members : ∀ rule ∈ Dialect.standard.invokeRules, rule.RunsMember :=
    fun _ isStandard => Invocation.runsMember_of_mem_standard isStandard
  obtain ⟨⟨past, journal⟩, told, _⟩ :=
    performAll_tables Sample.registry members rebinding
  exact ⟨members, by decide +kernel, past, journal, told past journal⟩

end ListInvocation.Session
