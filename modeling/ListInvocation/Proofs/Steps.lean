/-!
Contract: computations in steps, which can fail or change a state.

Owns: when a computation succeeds, in terms of its steps, which failure a step for each item
of a list comes to, and the states between two steps.

Does not own: what the steps compute.
-/

namespace ListInvocation

variable {ε α β : Type}

/-- A computation of two steps that succeeds has succeeded in both. -/
theorem steps_of_bind_eq_ok {first : Except ε α} {next : α → Except ε β} {value : β}
    (succeeded : (first >>= next) = .ok value) :
    ∃ middle, first = .ok middle ∧ next middle = .ok value := by
  cases first with
  | error failure => contradiction
  | ok middle => exact ⟨middle, rfl, succeeded⟩

/-- A second step goes on from the state that the first one leaves. -/
theorem bind_apply {σ : Type} (first : StateM σ α) (next : α → StateM σ β) (state : σ) :
    (first >>= next) state = next (first state).1 (first state).2 := rfl

theorem map_eq_ok_iff {first : Except ε α} {next : α → β} {value : β} :
    first.map next = .ok value ↔ ∃ middle, first = .ok middle ∧ next middle = value := by
  cases first <;> simp [Except.map]

theorem map_eq_error_iff {first : Except ε α} {next : α → β} {failure : ε} :
    first.map next = .error failure ↔ first = .error failure := by
  cases first <;> simp [Except.map]

/-- A success, seen as an option: options can be compared where failures cannot. -/
theorem eq_ok_of_toOption {result : Except ε α} {value : α}
    (succeeded : result.toOption = some value) : result = .ok value := by
  cases result with
  | error failure => contradiction
  | ok other => rw [Option.some.inj succeeded]

/-- A check and what follows it succeed when both do. -/
theorem andThen_eq_ok_iff {first : Except ε Unit} {second : Except ε α} {value : α} :
    (first >>= fun _ => second) = .ok value ↔ first = .ok () ∧ second = .ok value := by
  constructor
  · intro succeeded
    obtain ⟨_, passed, result⟩ := steps_of_bind_eq_ok succeeded
    exact ⟨passed, result⟩
  · rintro ⟨passed, succeeded⟩
    rw [passed]
    exact succeeded

/-- A check of every item passes when each item passes. -/
theorem forM_eq_ok_iff {check : α → Except ε Unit} {items : List α} :
    items.forM check = .ok () ↔ ∀ item ∈ items, check item = .ok () := by
  induction items with
  | nil => exact iff_of_true rfl nofun
  | cons item items inductionHypothesis =>
      rw [List.forM, andThen_eq_ok_iff, inductionHypothesis, List.forall_mem_cons]

section Items

variable {step : α → Except ε β} {items : List α}

theorem mapM_congr {other : α → Except ε β} (agree : ∀ item ∈ items, step item = other item) :
    items.mapM step = items.mapM other := by
  induction items with
  | nil => rfl
  | cons item items inductionHypothesis =>
      obtain ⟨here, later⟩ := List.forall_mem_cons.mp agree
      rw [List.mapM_cons, List.mapM_cons, here, inductionHypothesis later]

/-- A step for each item yields the values of all steps in order, when each has one. -/
theorem mapM_eq_ok_iff {values : List β} :
    items.mapM step = .ok values ↔ items.map step = values.map .ok := by
  induction items generalizing values with
  | nil => cases values <;> simp [pure, Except.pure]
  | cons item items inductionHypothesis =>
      rw [List.mapM_cons, List.map_cons]
      constructor
      · intro succeeded
        obtain ⟨value, here, rest⟩ := steps_of_bind_eq_ok succeeded
        obtain ⟨others, later, joined⟩ := steps_of_bind_eq_ok rest
        cases joined
        rw [here, inductionHypothesis.mp later, List.map_cons]
      · intro each
        cases values with
        | nil => contradiction
        | cons value values =>
            obtain ⟨here, later⟩ := List.cons.inj each
            rw [here, inductionHypothesis.mpr later]
            rfl

theorem exists_step_of_mem_mapM {values : List β} (succeeded : items.mapM step = .ok values)
    {value : β} (member : value ∈ values) : ∃ item ∈ items, step item = .ok value := by
  have inside : Except.ok value ∈ items.map step := by
    rw [mapM_eq_ok_iff.mp succeeded]
    exact List.mem_map_of_mem member
  exact List.mem_map.mp inside

theorem exists_mapM (each : ∀ item ∈ items, ∃ value, step item = .ok value) :
    ∃ values, items.mapM step = .ok values := by
  induction items with
  | nil => exact ⟨[], rfl⟩
  | cons item items inductionHypothesis =>
      obtain ⟨⟨value, here⟩, later⟩ := List.forall_mem_cons.mp each
      obtain ⟨values, others⟩ := inductionHypothesis later
      refine ⟨value :: values, ?_⟩
      rw [List.mapM_cons, here, others]
      rfl

/-- A failure of the steps is that of an item, and all items before it have values. -/
theorem exists_of_mapM_eq_error {failure : ε} (failed : items.mapM step = .error failure) :
    ∃ before item after, items = before ++ item :: after ∧
      (∀ earlier ∈ before, ∃ value, step earlier = .ok value) ∧
      step item = .error failure := by
  induction items with
  | nil => contradiction
  | cons item items inductionHypothesis =>
      rw [List.mapM_cons] at failed
      cases here : step item with
      | error cause =>
          rw [here] at failed
          have same : cause = failure := Except.error.inj failed
          exact ⟨[], item, items, rfl, nofun, same ▸ here⟩
      | ok value =>
          cases rest : items.mapM step with
          | ok others =>
              rw [here, rest] at failed
              contradiction
          | error cause =>
              rw [here, rest] at failed
              have same : cause = failure := Except.error.inj failed
              obtain ⟨before, other, after, parts, succeeded, otherFailed⟩ :=
                inductionHypothesis (same ▸ rest)
              refine ⟨item :: before, other, after, by rw [parts, List.cons_append], ?_,
                otherFailed⟩
              exact List.forall_mem_cons.mpr ⟨⟨value, here⟩, succeeded⟩

/-- A step for each item fails with the first failure of a step. -/
theorem mapM_eq_error_iff {failure : ε} :
    items.mapM step = .error failure ↔
      ∃ before item after, items = before ++ item :: after ∧
        (∀ earlier ∈ before, ∃ value, step earlier = .ok value) ∧
        step item = .error failure := by
  refine ⟨exists_of_mapM_eq_error, ?_⟩
  rintro ⟨before, item, after, parts, succeeded, failed⟩
  obtain ⟨values, inFront⟩ := exists_mapM succeeded
  rw [parts, List.mapM_append, inFront, List.mapM_cons, failed]
  rfl

end Items

end ListInvocation
