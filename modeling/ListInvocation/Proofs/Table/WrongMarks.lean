import ListInvocation.Fixture.Sample
import ListInvocation.Proofs.Dialect.Shape
import ListInvocation.Proofs.Dialect.Invocation
import ListInvocation.Proofs.Table.Placement
import ListInvocation.Platform

/-!
Contract: what a wrong mark of a script shows.

A check and a demand show the result of their call as the session composes it, an action
shows a fixed word. So the two agree exactly under those chains of rules that compose the
result as this word.

Owns: the rows whose calls return something else than they ask for, the agreement of wrong
marks with them, and the chains under which a wrong mark shows what is composed.

Does not own: the composition of values other than truth values.
-/

namespace ListInvocation.Table.Script

variable {session : Session} {value : TypedValue} {shown : String}

/-! ## Marks of rows -/

/-- The call of a row returns a value that is not what the row asks for, and the row shows a
text in its place. -/
inductive Unmet [Text.Alphabet] (session : Session) :
    ScriptRow → (value : TypedValue) → (shown : String) → Prop where
  | check {negate : Bool} {member : String} {arguments : List (Tree String)}
      {expected : Tree String} {value : TypedValue} :
      (session.call scriptActor member arguments).1 = .ok value →
      session.dialect.compare value expected = .ok negate →
      Unmet session (.check negate member arguments expected) value
        (composedText session value)
  | ensure {expect : Bool} {member : String} {arguments : List (Tree String)}
      {value : TypedValue} :
      (session.call scriptActor member arguments).1 = .ok value →
      value.value.asBool? ≠ some expect →
      Unmet session (.ensure expect member arguments) value (composedText session value)
  | action {member : String} {arguments : List (Tree String)} {value : TypedValue} :
      (session.call scriptActor member arguments).1 = .ok value →
      value.value = .bool false →
      Unmet session (.action member arguments) value "false"

theorem checkMark_eq_wrong_iff {negate : Bool} {expected : Tree String} :
    checkMark session negate value expected = .wrong shown ↔
      session.dialect.compare value expected = .ok negate ∧
        composedText session value = shown := by
  unfold checkMark
  cases session.dialect.compare value expected with
  | error failure => simp
  | ok matched => by_cases same : matched = negate <;> simp [same]

theorem ensureMark_eq_wrong_iff {expect : Bool} :
    ensureMark session expect value = .wrong shown ↔
      value.value.asBool? ≠ some expect ∧ composedText session value = shown := by
  unfold ensureMark
  by_cases met : value.value.asBool? = some expect <;> simp [met]

theorem actionMark?_eq_wrong_iff :
    actionMark? value = some (.wrong shown) ↔ value.value = .bool false ∧ "false" = shown := by
  unfold actionMark?
  cases value.value with
  | bool truth => cases truth <;> simp [Value.asBool?]
  | _ => simp [Value.asBool?]

theorem callActor_eq_wrong_iff [Text.Alphabet] {cell : Nat} {member : String}
    {arguments : List (Tree String)} {mark? : Session → TypedValue → Option Mark} :
    (∃ place, (callActor session cell member arguments mark?).1 = some (place, .wrong shown)) ↔
      ∃ value, (session.call scriptActor member arguments).1 = .ok value ∧
        mark? (session.call scriptActor member arguments).2 value = some (.wrong shown) := by
  simp only [callActor]
  cases (session.call scriptActor member arguments).1 with
  | error failure => simp
  | ok value => simp

/-- A row is marked wrong exactly if its call returns something else than it asks for. -/
theorem runRow_eq_wrong_iff [Text.Alphabet] {cells : List (Tree String)} :
    (∃ place, (runRow session cells).1 = some (place, .wrong shown)) ↔
      ∃ value, Unmet session (.ofCells cells) value shown := by
  unfold runRow
  cases ScriptRow.ofCells cells with
  | note => exact ⟨nofun, nofun⟩
  | invalid => exact ⟨nofun, nofun⟩
  | check negate member arguments expected =>
      rw [callActor_eq_wrong_iff]
      refine exists_congr fun value => ?_
      rw [Option.some.injEq, checkMark_eq_wrong_iff]
      constructor
      · rintro ⟨called, judged, rfl⟩
        exact .check called judged
      · rintro (⟨called, judged⟩ | _)
        exact ⟨called, judged, rfl⟩
  | ensure expect member arguments =>
      rw [callActor_eq_wrong_iff]
      refine exists_congr fun value => ?_
      rw [Option.some.injEq, ensureMark_eq_wrong_iff]
      constructor
      · rintro ⟨called, unmet, rfl⟩
        exact .ensure called unmet
      · rintro (_ | ⟨called, unmet⟩)
        exact ⟨called, unmet, rfl⟩
  | present member arguments =>
      rw [callActor_eq_wrong_iff]
      constructor
      · rintro ⟨value, called, isWrong⟩
        exact Mark.noConfusion (Option.some.inj isWrong)
      · exact nofun
  | action member arguments =>
      rw [callActor_eq_wrong_iff]
      refine exists_congr fun value => ?_
      rw [actionMark?_eq_wrong_iff]
      constructor
      · rintro ⟨called, isFalse, rfl⟩
        exact .action called isFalse
      · rintro (_ | _ | ⟨called, isFalse⟩)
        exact ⟨called, isFalse, rfl⟩

/-! ## Marks of runs -/

section Runs

variable [Text.Alphabet] {start : Session} {tables : List (Tree String)}

/-- Headers are not marked wrong, so that a wrong mark is one of a row. -/
theorem exists_comesTo_of_wrong {position : CellRef}
    (marked : (position, Mark.wrong shown) ∈ marksOfTables 0 start tables) :
    ∃ session cells, ComesTo start tables position.table position.row session cells ∧
      (runRow session cells).1 = some (position.cell, .wrong shown) := by
  obtain ⟨before, found, after, listed, own⟩ := exists_table_of_mem 0 start marked
  cases branches : found.branches with
  | nil =>
      rw [branches] at own
      exact absurd own List.not_mem_nil
  | cons header rows =>
      -- Only a table whose actor could be made has marks of rows.
      unfold marksOfTable at own
      cases opened : opening (afterTables start before) found.branches with
      | empty =>
          rw [opened] at own
          exact absurd own List.not_mem_nil
      | foreign =>
          rw [opened] at own
          simp at own
      | unmade failure =>
          rw [opened] at own
          simp [headerFailed] at own
      | made made =>
          rw [opened, branches] at own
          obtain ⟨earlier, cells, later, parts, inside⟩ := exists_row_of_mem _ _ _ own
          rw [Nat.zero_add, Nat.add_comm] at inside
          obtain ⟨⟨isTable, isRow⟩, marks⟩ := mem_rowMarks.mp inside
          refine ⟨_, cells.branches, ?_, marks⟩
          rw [isTable, isRow]
          exact .row listed (branches.trans (congrArg _ parts)) opened

/-- Every row is run with the rules that the run starts with. -/
theorem ComesTo.dialect {table row : Nat} {cells : List (Tree String)}
    (comes : ComesTo start tables table row session cells) :
    session.dialect = start.dialect := by
  cases comes with
  | row listed branches opened =>
      rw [afterRows_dialect, dialect_of_made opened, afterTables_dialect]

end Runs

/-! ## Composed texts -/

theorem display_eq_false {tree : Tree String} (shows : display tree = "false") :
    tree = .text "false" := by
  cases tree with
  | leaf word => exact congrArg Tree.leaf shows
  | node word branches =>
      have opens := congrArg (fun text => text.toList.head?) shows
      simp [display] at opens

variable [Pattern.Library]

section Texts

variable (builtIn : session.dialect.BuiltIn)
include builtIn

theorem failureText_eq (failure : Failure) :
    failureText session failure = failure.exceptionText ∨
      failureText session failure = failure.message := by
  unfold failureText Session.composeFailure
  cases composed : session.dialect.compose (.failure failure) with
  | error _ => exact .inl rfl
  | ok tree =>
      rcases Dialect.compose_failure builtIn composed with rfl | rfl
      · exact .inl rfl
      · exact .inr rfl

/-- That no rule composes a value does not read like a truth value. -/
theorem failureText_ne_false (declared : ValueType) :
    failureText session (.operatorMissing .compose declared) ≠ "false" := by
  intro shows
  -- The first character tells both texts of the failure from the word.
  rcases failureText_eq builtIn (.operatorMissing .compose declared) with same | same
  · rw [same, Failure.exceptionText, Failure.exceptionMark] at shows
    have starts := congrArg (fun text : String => text.toList.head?) shows
    simp at starts
  · have wording : (Failure.operatorMissing .compose declared).message =
        "no " ++ "compose" ++ " operator accepts type '" ++ declared.name ++ "'" := rfl
    rw [same, wording] at shows
    have starts := congrArg (fun text : String => text.toList.head?) shows
    simp at starts

/-- The composed text of an unmet truth value is the word that actions show, if the rule of
truth values composes it, and in no other case. -/
theorem composedText_eq_false_iff (isFalse : value.value = .bool false) :
    composedText session value = "false" ↔
      session.dialect.composeRuleFor? value = some Composition.boolean := by
  rw [← Dialect.compose_eq_word_iff builtIn isFalse]
  unfold composedText
  cases chooses : session.dialect.composeRuleFor? value with
  | none =>
      rw [Dialect.compose_of_unaccepted chooses]
      exact ⟨fun shows => absurd shows (failureText_ne_false builtIn _), nofun⟩
  | some rule =>
      have standard := builtIn.compose rule (List.mem_of_find?_eq_some chooses)
      have noList : ∀ items, value.value ≠ .list items := by
        rw [isFalse]
        exact nofun
      obtain ⟨tree, composed⟩ := Composition.exists_of_mem_standard standard
        fun items isList => absurd isList (noList items)
      rw [Dialect.compose_eq builtIn chooses, composed]
      constructor
      · intro shows
        exact congrArg Except.ok (display_eq_false shows)
      · intro same
        rw [Except.ok.inj same]
        rfl

variable [Text.Alphabet]

/-- A demand and an action that are unmet by the same result show the same text, if the rule
of truth values composes the result, and in no other case. -/
theorem Unmet.agree_iff {member : String} {arguments : List (Tree String)}
    {demanded acted : String}
    (demand : Unmet session (.ensure true member arguments) value demanded)
    (action : Unmet session (.action member arguments) value acted) :
    acted = demanded ↔ session.dialect.composeRuleFor? value = some Composition.boolean := by
  cases demand with
  | ensure _ _ =>
      cases action with
      | action _ isFalse => rw [eq_comm, composedText_eq_false_iff builtIn isFalse]

end Texts

variable [Text.Alphabet]

/-- With the usual rules every unmet row shows what is composed. -/
theorem Unmet.shown_eq {format : NumberFormat} {row : ScriptRow}
    (standard : session.dialect = Dialect.standard.withFormat format)
    (unmet : Unmet session row value shown) : shown = composedText session value := by
  cases unmet with
  | check _ _ => rfl
  | ensure _ _ => rfl
  | action called isFalse =>
      have builtIn : session.dialect.BuiltIn := by
        rw [standard]
        exact Dialect.builtIn_standard format
      have typed : value.declared ≠ .void := by
        intro isVoid
        have isNull := Dialect.isNull_of_invoke builtIn called isVoid
        rw [isFalse] at isNull
        contradiction
      have chooses := Dialect.composeRuleFor?_of_typed format typed
      rw [isFalse, ← standard] at chooses
      exact ((composedText_eq_false_iff builtIn isFalse).mpr chooses).symm

/-! ## Wrong marks -/

/-- A row is marked wrong exactly if a run comes to it and its call returns something else
than it asks for. With the same result an action and a demand show the same text exactly if
the chain composes it by the rule of truth values. The usual rules do, and every wrong mark
shows what they compose. -/
theorem run_wrongMarks (registry : Registry) (dialect : Dialect) (tables : Tree String) :
    (∀ table row shown,
      (∃ cell, (⟨table, row, cell⟩, Mark.wrong shown) ∈ (run registry dialect tables).cells) ↔
        ∃ session cells value,
          ComesTo (.start registry dialect) tables.branches table row session cells ∧
            session.dialect = dialect ∧ Unmet session (.ofCells cells) value shown) ∧
      ∀ session, session.dialect = dialect →
        (dialect.BuiltIn → ∀ member arguments value demanded acted,
          Unmet session (.ensure true member arguments) value demanded →
          Unmet session (.action member arguments) value acted →
            (acted = demanded ↔
              dialect.composeRuleFor? value = some Composition.boolean)) ∧
        ∀ format, dialect = Dialect.standard.withFormat format →
          ∀ row value shown, Unmet session row value shown →
            shown = composedText session value := by
  refine ⟨?_, ?_⟩
  · intro table row shown
    constructor
    · rintro ⟨cell, marked⟩
      rw [run_cells] at marked
      obtain ⟨session, cells, comes, marks⟩ := exists_comesTo_of_wrong marked
      obtain ⟨value, unmet⟩ := runRow_eq_wrong_iff.mp ⟨cell, marks⟩
      exact ⟨session, cells, value, comes, comes.dialect, unmet⟩
    · rintro ⟨session, cells, value, comes, _, unmet⟩
      obtain ⟨cell, marks⟩ := runRow_eq_wrong_iff.mpr ⟨value, unmet⟩
      have own : (⟨table, row, cell⟩, Mark.wrong shown) ∈
          rowMarks table row session cells := mem_rowMarks.mpr ⟨⟨rfl, rfl⟩, marks⟩
      rw [← comes.marksIn] at own
      exact ⟨cell, (List.mem_filter.mp (List.mem_filter.mp own).1).1⟩
  · rintro session rfl
    refine ⟨?_, ?_⟩
    · intro builtIn member arguments value demanded acted demand action
      exact demand.agree_iff builtIn action
    · intro format standard row value shown unmet
      exact unmet.shown_eq standard

end ListInvocation.Table.Script

namespace ListInvocation.Table.Script

/-- A call that returns a false truth value, first as an action and then as a demand. -/
def falseScript : Tree String :=
  .list [
    Tree.textList ["script", "demo.Calculator"],
    Tree.textList ["isPositive"],
    Tree.textList ["ensure", "isPositive"]]

/-- A chain that composes everything as plain text. -/
def plainDialect : Dialect :=
  { Dialect.empty with
    composeRules := [Composition.plain]
    invokeRules := [Invocation.direct] }

theorem run_wrongMarks_falseScript :
    let report := run Sample.registry .standard (.list [falseScript])
    report.cells = [(⟨0, 1, 0⟩, .wrong "false"), (⟨0, 2, 0⟩, .wrong "false")] ∧
      (∀ cell ∈ report.cells, ∃ session cells value,
        ComesTo (.start Sample.registry .standard) [falseScript] cell.1.table cell.1.row
          session cells ∧ cell.2 = .wrong (composedText session value)) ∧
      Dialect.standard.composeRuleFor? (.bool false) = some Composition.boolean := by
  intro report
  have marks : report.cells =
      [(⟨0, 1, 0⟩, .wrong "false"), (⟨0, 2, 0⟩, .wrong "false")] := by decide +kernel
  obtain ⟨wrong, agree⟩ := run_wrongMarks Sample.registry .standard (.list [falseScript])
  refine ⟨marks, ?_, ?_⟩
  · have each : ∀ cell ∈ report.cells, ∃ shown, cell.2 = Mark.wrong shown := by
      rw [marks]
      simp
    rintro ⟨position, mark⟩ member
    obtain ⟨shown, isWrong⟩ := each _ member
    simp only at isWrong
    rw [isWrong] at member ⊢
    obtain ⟨session, cells, value, comes, standard, unmet⟩ :=
      (wrong position.table position.row shown).mp ⟨position.cell, member⟩
    have composed := (agree session standard).2 .invariant rfl _ value shown unmet
    exact ⟨session, cells, value, comes, congrArg Mark.wrong composed⟩
  · let made := ((Session.start Sample.registry .standard).make scriptActor "demo.Calculator" []).2
    have demand : Unmet made (.ensure true "isPositive" []) (.bool false) "false" :=
      .ensure rfl nofun
    have action : Unmet made (.action "isPositive" []) (.bool false) "false" :=
      .action rfl rfl
    exact ((agree made rfl).1 (Dialect.builtIn_standard .invariant) _ _ _ _ _ demand
      action).mp rfl

/-- Under another chain the two rows show different texts for the same result, and the action
does not show what is composed. -/
theorem run_wrongMarks_plainDialect :
    let start := Session.start Sample.registry plainDialect
    let made := (start.make scriptActor "demo.Calculator" []).2
    let report := run Sample.registry plainDialect (.list [falseScript])
    report.cells = [(⟨0, 1, 0⟩, .wrong "false"), (⟨0, 2, 0⟩, .wrong "False")] ∧
      ComesTo start [falseScript] 0 1 made [.text "isPositive"] ∧
      (made.call scriptActor "isPositive" []).1 = .ok (.bool false) ∧
      composedText made (.bool false) = "False" := by
  intro start made report
  have opened : opening (afterTables start []) falseScript.branches = .made made := rfl
  have comes : ComesTo start ([] ++ falseScript :: []) [].length
      (([] : List (Tree String)).length + 1) (afterRows made [])
      (Tree.textList ["isPositive"]).branches := .row rfl rfl opened
  exact ⟨by decide +kernel, comes, rfl, rfl⟩

end ListInvocation.Table.Script
