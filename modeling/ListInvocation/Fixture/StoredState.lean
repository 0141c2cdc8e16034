import ListInvocation.Fixture.Class

/-!
Contract: fixture classes over a state type of their own.

Owns: the storage of a state in the fields of an object, and constructors and methods
that are written on the state.

Does not own: any particular class.
-/

namespace ListInvocation

/-- A state type that the fields of an object can hold without loss. -/
structure StoredState (σ : Type) where
  store : σ → Fields
  load : Fields → σ
  load_store : ∀ state, load (store state) = state

namespace StoredState

variable {σ : Type}

def constructor (stored : StoredState σ) (parameters : List ValueType)
    (build : Arguments → Except Failure σ) : Constructor where
  parameters := parameters
  build arguments := (build arguments).map stored.store

def action (stored : StoredState σ) (name : String) (parameters : List ValueType)
    (change : σ → Arguments → Except Failure σ) : Method :=
  .action name parameters fun fields arguments =>
    (change (stored.load fields) arguments).map stored.store

def query (stored : StoredState σ) (name : String) (parameters : List ValueType)
    (returns : ValueType) (read : σ → Arguments → Except Failure Value) : Method :=
  .query name parameters returns fun fields arguments => read (stored.load fields) arguments

end StoredState

end ListInvocation
