import Mathlib.Data.List.Nodup
import ListInvocation.Fixture.Instances
import ListInvocation.Proofs.Association

/-!
Contract: what the operations of an instance table do to its bindings.

Owns: the effect of a new binding and of a replaced object on look-ups, on the order, and
on the classes under their identifiers.

Does not own: which object is bound or replaced.
-/

namespace ListInvocation.InstanceTable

/-! ## Look-ups -/

section Lookup

variable {table : InstanceTable} {id other : String}

@[simp] theorem find?_bind_self (table : InstanceTable) (id : String) (bound : Instance) :
    (table.bind id bound).find? id = some bound := by
  unfold find? bind
  rw [List.lookup_cons_self]

theorem find?_bind_of_ne (table : InstanceTable) (different : other ≠ id) (bound : Instance) :
    (table.bind id bound).find? other = table.find? other :=
  lookup_replace_of_ne different bound table.entries

theorem find?_withObject (table : InstanceTable) (id other : String) (object : FixtureObject) :
    (table.withObject id object).find? other =
      (table.find? other).map fun bound =>
        if other = id then { bound with object := object } else bound :=
  lookup_map_named (fun bound : Instance => { bound with object := object }) table.entries

theorem find?_withObject_self (table : InstanceTable) (id : String) (object : FixtureObject) :
    (table.withObject id object).find? id =
      (table.find? id).map fun bound => { bound with object := object } := by
  simp only [find?_withObject, if_true]

theorem find?_withObject_of_ne (table : InstanceTable) {id other : String}
    (different : other ≠ id) (object : FixtureObject) :
    (table.withObject id object).find? other = table.find? other := by
  simp only [find?_withObject, if_neg different, Option.map_id']

theorem mem_of_find? {bound : Instance} (found : table.find? id = some bound) :
    (id, bound) ∈ table.entries := by
  obtain ⟨before, after, shape, _⟩ := List.lookup_eq_some_iff.mp found
  rw [shape]
  exact List.mem_append_right before List.mem_cons_self

end Lookup

/-! ## Order -/

/-- The order lists each bound identifier exactly once, and nothing else. -/
structure InStep (table : InstanceTable) : Prop where
  nodup : table.order.Nodup
  bound : (table.entries.map Prod.fst).Perm table.order

theorem inStep_empty : empty.InStep := ⟨List.nodup_nil, .nil⟩

/-- A bound identifier leaves its old place and takes the last one, in both containers. -/
theorem InStep.bind {table : InstanceTable} (inStep : table.InStep) (id : String)
    (bound : Instance) : (table.bind id bound).InStep := by
  constructor
  case nodup =>
    refine List.nodup_append.mpr ⟨inStep.nodup.filter _, List.nodup_singleton id, ?_⟩
    intro other kept last added same
    have isOther := (List.mem_filter.mp kept).2
    rw [same, List.mem_singleton.mp added, bne_self_eq_false] at isOther
    contradiction
  case bound =>
    have others := inStep.bound.filter fun existing => existing != id
    rw [List.filter_map] at others
    exact (others.cons id).trans (List.perm_append_singleton id _).symm

theorem identifiers_withObject (table : InstanceTable) (id : String) (object : FixtureObject) :
    (table.withObject id object).entries.map Prod.fst = table.entries.map Prod.fst := by
  unfold InstanceTable.withObject
  rw [List.map_map]
  apply List.map_congr_left
  intro entry _
  by_cases here : entry.1 == id
  · simp only [Function.comp_apply, if_pos here]
  · simp only [Function.comp_apply, if_neg here]

theorem InStep.withObject {table : InstanceTable} (inStep : table.InStep) (id : String)
    (object : FixtureObject) : (table.withObject id object).InStep :=
  ⟨inStep.nodup, table.identifiers_withObject id object ▸ inStep.bound⟩

theorem InStep.mem_order_iff {table : InstanceTable} (inStep : table.InStep) (id : String) :
    id ∈ table.order ↔ table.contains id = true := by
  rw [← inStep.bound.mem_iff, contains, find?, ← not_iff_not, Bool.not_eq_true,
    Option.isSome_eq_false_iff, Option.isNone_iff_eq_none, List.lookup_eq_none_iff]
  simp only [List.mem_map, not_exists, not_and, bne_iff_ne]
  constructor
  · intro absent entry member same
    exact absent entry member same.symm
  · intro absent entry member same
    exact absent entry member same.symm

theorem InStep.size_eq {table : InstanceTable} (inStep : table.InStep) :
    table.size = table.order.length := by
  rw [size, ← inStep.bound.length_eq, List.length_map]

/-! ## Classes -/

/-- The bound identifiers with the classes of their instances, the oldest binding first. -/
def classes (table : InstanceTable) : List (String × FixtureClass) :=
  table.order.filterMap fun id => (table.find? id).map fun bound => (id, bound.fixture)

/-- A replaced object keeps its class and its place, and so do all others. -/
theorem classes_withObject (table : InstanceTable) (id : String) (object : FixtureObject) :
    (table.withObject id object).classes = table.classes := by
  unfold classes
  refine congrArg (fun classOf => table.order.filterMap classOf) (funext fun other => ?_)
  by_cases here : other = id
  · rw [here, find?_withObject_self, Option.map_map]
    rfl
  · rw [find?_withObject_of_ne table here]

/-! ## Objects -/

/-- Every object was made by its own class. -/
def OwnObjects (table : InstanceTable) : Prop :=
  ∀ entry ∈ table.entries, ∃ fields, entry.2.object = .fields fields

theorem ownObjects_bind {table : InstanceTable} (own : table.OwnObjects) (id : String)
    {bound : Instance} {fields : Fields} (made : bound.object = .fields fields) :
    (table.bind id bound).OwnObjects := by
  intro entry member
  rcases List.mem_cons.mp member with added | kept
  · rw [added]
    exact ⟨fields, made⟩
  · exact own entry (List.mem_filter.mp kept).1

theorem ownObjects_withObject {table : InstanceTable} (own : table.OwnObjects) (id : String)
    (fields : Fields) : (table.withObject id (.fields fields)).OwnObjects := by
  intro entry member
  obtain ⟨before, wasBound, same⟩ := List.mem_map.mp member
  by_cases here : before.1 == id
  · rw [if_pos here] at same
    rw [← same]
    exact ⟨fields, rfl⟩
  · rw [if_neg here] at same
    rw [← same]
    exact own before wasBound

end ListInvocation.InstanceTable
