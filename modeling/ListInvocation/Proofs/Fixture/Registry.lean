import Mathlib.Data.List.Induction
import ListInvocation.Fixture.Registry

/-!
Contract: which class a name stands for.

A name stands for the class that is registered under it. Without one it stands for the class
below the first path that has it, so paths behind others only add names, and a path that comes
again adds none.

Owns: the class of a name among some paths, `resolve` as the search for it, and what further
and repeated paths change.

Does not own: where the paths come from.
-/

namespace ListInvocation.Registry

variable {registry : Registry} {name : String} {fixture : FixtureClass} {paths : List String}

/-! ## Registered names -/

/-- A class that is found is registered under its own name. -/
theorem find?_name_of_find? (found : registry.find? name = some fixture) :
    registry.find? fixture.name = some fixture := by
  have same : (fixture.name == name) = true := by
    unfold find? at found
    have holds := List.find?_some found
    exact holds
  rw [eq_of_beq same]
  exact found

/-! ## Names below paths -/

/-- A name stands for a class where classes are searched below some paths. -/
inductive Names (registry : Registry) (paths : List String) (name : String)
    (fixture : FixtureClass) : Prop where
  | literal : registry.find? name = some fixture → Names registry paths name fixture
  | below {earlier later : List String} {path : String} :
      registry.find? name = none → paths = earlier ++ path :: later →
      (∀ other ∈ earlier, registry.find? (qualified other name) = none) →
      registry.find? (qualified path name) = some fixture → Names registry paths name fixture

theorem resolve_of_literal (found : registry.find? name = some fixture) (paths : List String) :
    registry.resolve name paths = .ok fixture := by
  unfold resolve
  rw [found]

theorem resolve_of_not_literal (missing : registry.find? name = none) (paths : List String) :
    registry.resolve name paths =
      match paths.findSome? fun path => registry.find? (qualified path name) with
      | some fixture => .ok fixture
      | none => .error (.typeMissing name paths) := by
  unfold resolve
  cases paths.findSome? fun path => registry.find? (qualified path name) with
  | some fixture => rw [missing]
  | none => rw [missing]

theorem resolve_eq_ok_iff :
    registry.resolve name paths = .ok fixture ↔ registry.Names paths name fixture := by
  constructor
  · intro resolved
    cases direct : registry.find? name with
    | some found =>
        rw [resolve_of_literal direct] at resolved
        cases resolved
        exact .literal direct
    | none =>
        rw [resolve_of_not_literal direct] at resolved
        split at resolved
        next found first =>
          cases resolved
          obtain ⟨earlier, path, later, parts, isThere, others⟩ :=
            List.findSome?_eq_some_iff.mp first
          exact .below direct parts others isThere
        next => contradiction
  · intro names
    cases names with
    | literal found => exact resolve_of_literal found paths
    | @below earlier later path missing parts others found =>
        have first : (paths.findSome? fun path => registry.find? (qualified path name)) =
            some fixture :=
          List.findSome?_eq_some_iff.mpr ⟨earlier, path, later, parts, found, others⟩
        rw [resolve_of_not_literal missing, first]

/-- A search fails when the name stands for no class, and says where it went. -/
theorem resolve_eq_error_iff {failure : Failure} :
    registry.resolve name paths = .error failure ↔
      failure = .typeMissing name paths ∧ ∀ fixture, ¬ registry.Names paths name fixture := by
  simp only [← resolve_eq_ok_iff]
  cases direct : registry.find? name with
  | some found => simp [resolve_of_literal direct]
  | none =>
      rw [resolve_of_not_literal direct]
      split
      next => simp
      next => simp [eq_comm]

theorem find?_name_of_resolve (resolved : registry.resolve name paths = .ok fixture) :
    registry.find? fixture.name = some fixture := by
  cases resolve_eq_ok_iff.mp resolved with
  | literal found => exact find?_name_of_find? found
  | below _ _ _ found => exact find?_name_of_find? found

/-! ## Further and repeated paths -/

/-- Paths behind others change no name that stands for a class without them. -/
theorem Names.append (names : registry.Names paths name fixture) (further : List String) :
    registry.Names (paths ++ further) name fixture := by
  cases names with
  | literal found => exact .literal found
  | @below earlier later path missing parts others found =>
      have further : paths ++ further = earlier ++ path :: (later ++ further) := by
        rw [parts, List.append_assoc, List.cons_append]
      exact .below missing further others found

/-- Where an item comes again, nothing is found that was not found before. -/
theorem findSome?_eraseDups {α β : Type} [BEq α] [LawfulBEq α] (find : α → Option β)
    (items : List α) : items.eraseDups.findSome? find = items.findSome? find := by
  -- The first of equal items is the one that stays, so the last item is taken off.
  induction items using List.reverseRecOn with
  | nil => rfl
  | append_singleton items last inductionHypothesis =>
      rw [List.eraseDups_append, List.findSome?_append, List.findSome?_append,
        inductionHypothesis]
      by_cases known : last ∈ items
      · have nothingNew : [last].removeAll items = [] := by simp [List.removeAll, known]
        rw [nothingNew]
        cases found : items.findSome? find with
        | some value => rfl
        | none =>
            have missing : find last = none := List.findSome?_eq_none_iff.mp found last known
            simp [missing]
      · have isNew : [last].removeAll items = [last] := by simp [List.removeAll, known]
        rw [isNew]
        rfl

/-- The paths without their repetitions find the same classes as all of them. -/
theorem toOption_resolve_eraseDups (registry : Registry) (name : String) (paths : List String) :
    (registry.resolve name paths.eraseDups).toOption =
      (registry.resolve name paths).toOption := by
  cases direct : registry.find? name with
  | some found => rw [resolve_of_literal direct, resolve_of_literal direct]
  | none =>
      rw [resolve_of_not_literal direct, resolve_of_not_literal direct, findSome?_eraseDups]
      split <;> rfl

end ListInvocation.Registry
