import ListInvocation.Proofs.Dialect.RoundTrip
import ListInvocation.Proofs.Session.Reachable
import ListInvocation.Proofs.Symbols
import ListInvocation.Platform

/-!
Contract: a result that is carried through a symbol arrives unchanged.

Owns: the operations that keep a symbol, the states behind them, and what an argument that
is one reference becomes in those states.

Does not own: references inside longer texts.
-/

namespace ListInvocation

/-- The symbol that an operation assigns when it succeeds. -/
def Operation.assigned? : Operation → Option String
  | .callAndAssign symbol _ _ _ => some symbol
  | .assign symbol _ => some symbol
  | _ => none

variable [Text.Alphabet]

namespace Session

/-- The states that a session can come to while a symbol is not assigned again: every
operation on the way assigns another symbol or none, or fails. -/
inductive Onward (symbol : String) (session : Session) : Session → Prop where
  | here : Onward symbol session session
  | run {between : Session} (operation : Operation) : Onward symbol session between →
      (operation.assigned? = some symbol →
        ∃ failure, (between.run operation).1 = .error failure) →
      Onward symbol session (between.run operation).2

/-! ## Symbols along a run -/

/-- An operation that assigns another symbol or none, or fails, keeps a symbol. -/
theorem find?_run {session : Session} {operation : Operation} {symbol : String}
    (kept : operation.assigned? = some symbol →
      ∃ failure, (session.run operation).1 = .error failure) :
    (session.run operation).2.symbols.find? symbol = session.symbols.find? symbol := by
  have ends := session.run_ends operation
  generalize session.run operation = ended at ends kept ⊢
  -- A success that assigns this very symbol is excluded by `kept`.
  cases ends with
  | unmade _ => rfl
  | made _ _ => rfl
  | called => rfl
  | unassigned _ => rfl
  | @assigned name _ _ _ tree _ =>
      have different : symbol ≠ name := by
        intro same
        obtain ⟨failure, failed⟩ := kept (congrArg some same.symm)
        contradiction
      exact SymbolTable.find?_assign_of_ne _ different tree
  | imported => rfl
  | @bound name _ =>
      have different : symbol ≠ name := by
        intro same
        obtain ⟨failure, failed⟩ := kept (congrArg some same.symm)
        contradiction
      exact SymbolTable.find?_assign_of_ne _ different _

theorem Onward.find? {session later : Session} {symbol : String}
    (onward : Onward symbol session later) :
    later.symbols.find? symbol = session.symbols.find? symbol := by
  induction onward with
  | here => rfl
  | run operation _ kept inductionHypothesis =>
      exact (find?_run kept).trans inductionHypothesis

theorem Onward.dialect {session later : Session} {symbol : String}
    (onward : Onward symbol session later) : later.dialect = session.dialect := by
  induction onward with
  | here => rfl
  | @run between operation _ _ inductionHypothesis =>
      exact (between.run_setting operation).2.trans inductionHypothesis

/-! ## Arguments that are one reference -/

/-- An argument that is one reference to a symbol arrives as a value, where it is declared
with a type: it is parsed as that value, and so the bodies of methods and constructors get
that value. -/
structure Arrives (session : Session) (symbol : String) (type : ValueType)
    (value : TypedValue) : Prop where
  parsed : session.dialect.parse type
    (session.symbols.substitute (SymbolTable.reference symbol)) = .ok value
  method {target member id : String} {arguments : List (Tree String)} {bound : Instance}
    {method : Method} {values : Arguments} {position : Nat} :
    Dialect.Enters session.dialect session.instances
      (session.request target member arguments) id bound method values →
    method.parameters[position]? = some type →
    arguments[position]? = some (SymbolTable.reference symbol) →
    values[position]? = some value
  constructor {constructor : Constructor} {arguments : List (Tree String)}
    {values : Arguments} {position : Nat} :
    session.dialect.parseArguments constructor.parameters
      (session.symbols.substituteAll arguments) = .ok values →
    constructor.parameters[position]? = some type →
    arguments[position]? = some (SymbolTable.reference symbol) →
    values[position]? = some value

/-- It is enough that the reference is parsed as the value. -/
theorem arrives_of_parsed {session : Session} {symbol : String} {type : ValueType}
    {value : TypedValue}
    (parsed : session.dialect.parse type
      (session.symbols.substitute (SymbolTable.reference symbol)) = .ok value) :
    session.Arrives symbol type value := by
  have received : ∀ {parameters : List ValueType} {arguments : List (Tree String)}
      {values : Arguments} {position : Nat},
      session.dialect.parseArguments parameters
        (session.symbols.substituteAll arguments) = .ok values →
      parameters[position]? = some type →
      arguments[position]? = some (SymbolTable.reference symbol) →
      values[position]? = some value := by
    intro parameters arguments values position parsedAll declared given
    have substituted : (session.symbols.substituteAll arguments)[position]? =
        some (session.symbols.substitute (SymbolTable.reference symbol)) := by
      rw [SymbolTable.substituteAll_eq_map, List.getElem?_map, given]
      rfl
    obtain ⟨argument, found, same⟩ :=
      Dialect.parse_of_parseArguments parsedAll declared substituted
    rw [parsed] at same
    rw [found, Except.ok.inj same]
  exact ⟨parsed, fun enters => received enters.parsed, received⟩

variable [Pattern.Library]

/-- The assignment of a plain result succeeds, and from then on, until the symbol is
assigned again, an argument that is one reference to it arrives as the very result. -/
theorem callAndAssign_arrives {session later : Session} {format : NumberFormat}
    (standard : session.dialect = Dialect.standard.withFormat format)
    {type : ValueType} {value : TypedValue} (plain : value.Plain type)
    {symbol target member : String} {arguments : List (Tree String)}
    (returned : (session.call target member arguments).1 = .ok value)
    (onward : Onward symbol
      (session.run (.callAndAssign symbol target member arguments)).2 later) :
    (∃ tree, (session.run (.callAndAssign symbol target member arguments)).1 = .ok tree) ∧
      later.Arrives symbol type value := by
  obtain ⟨tree, composed, parsed⟩ := Dialect.parse_compose format plain
  have called : (session.callComposed target member arguments).1 = .ok tree := by
    rw [callComposed_eq, returned, standard]
    exact composed
  have sameDialect : later.dialect = Dialect.standard.withFormat format :=
    onward.dialect.trans ((session.run_setting _).2.trans standard)
  have bound : later.symbols.find? symbol = some tree := by
    rw [onward.find?, run_callAndAssign_of_ok called]
    exact SymbolTable.find?_assign_self _ symbol tree
  refine ⟨⟨tree, by rw [run_callAndAssign_of_ok called]⟩, arrives_of_parsed ?_⟩
  rw [SymbolTable.substitute_reference bound, sameDialect]
  exact parsed

end Session

end ListInvocation

namespace ListInvocation.Session

/-- The digits of a calculator's total, carried past a call of another method. -/
theorem callAndAssign_arrives_digits :
    (sampleSession.call "c" "digits" []).1 = .ok (.list .int [.int 0]) ∧
      ((sampleSession.run (.callAndAssign "s" "c" "digits" [])).2.run
        (.call "c" "total" [])).2.Arrives "s" (.list .int) (.list .int [.int 0]) := by
  have returned : (sampleSession.call "c" "digits" []).1 = .ok (.list .int [.int 0]) := by
    with_unfolding_all rfl
  have plain : (TypedValue.list .int [.int 0]).Plain (.list .int) := by
    apply TypedValue.Plain.list
    intro item member
    rw [List.mem_singleton.mp member]
    exact .int 0
  have standard : sampleSession.dialect = Dialect.standard.withFormat .invariant :=
    reachable_sampleSession.setting.2
  have onward : Onward "s" (sampleSession.run (.callAndAssign "s" "c" "digits" [])).2
      ((sampleSession.run (.callAndAssign "s" "c" "digits" [])).2.run
        (.call "c" "total" [])).2 := .run _ .here (nofun)
  exact ⟨returned, (callAndAssign_arrives standard plain returned onward).2⟩

end ListInvocation.Session
