/-!
Contract: look-ups in lists of named entries, where the first entry of a name counts.

Owns: the effect on look-ups of an entry that takes the place of all entries of its name,
and of a change of the entries of one name.

Does not own: what the entries are.
-/

namespace ListInvocation

variable {β : Type} {name other : String}

private theorem lookup_filter_of_ne (different : other ≠ name) (entries : List (String × β)) :
    (entries.filter fun entry => entry.1 != name).lookup other = entries.lookup other := by
  induction entries with
  | nil => rfl
  | cons entry entries inductionHypothesis =>
      obtain ⟨entryName, value⟩ := entry
      by_cases here : entryName = name
      · -- The dropped entry is not the one that is looked up.
        have elsewhere : (other == entryName) = false := beq_false_of_ne (here ▸ different)
        have dropped : (entryName != name) = false := bne_eq_false_iff_eq.mpr here
        simp only [List.filter_cons, dropped, List.lookup_cons, elsewhere]
        exact inductionHypothesis
      · have kept : (entryName != name) = true := bne_iff_ne.mpr here
        simp only [List.filter_cons, kept, if_true, List.lookup_cons, inductionHypothesis]

/-- A new entry does not show under other names. -/
theorem lookup_replace_of_ne (different : other ≠ name) (value : β)
    (entries : List (String × β)) :
    ((name, value) :: entries.filter fun entry => entry.1 != name).lookup other =
      entries.lookup other := by
  have elsewhere : (other == name) = false := beq_false_of_ne different
  rw [List.lookup_cons, elsewhere]
  exact lookup_filter_of_ne different entries

/-- Changed entries are found changed, under their name and no other. -/
theorem lookup_map_named (change : β → β) (entries : List (String × β)) :
    (entries.map fun entry => if entry.1 == name then (entry.1, change entry.2) else entry).lookup
        other =
      (entries.lookup other).map fun value => if other = name then change value else value := by
  induction entries with
  | nil => rfl
  | cons entry entries inductionHypothesis =>
      obtain ⟨entryName, value⟩ := entry
      have head : (if entryName == name then (entryName, change value) else (entryName, value)) =
          (entryName, if entryName = name then change value else value) := by
        by_cases here : entryName = name
        · rw [if_pos (beq_iff_eq.mpr here), if_pos here]
        · rw [if_neg (mt beq_iff_eq.mp here), if_neg here]
      rw [List.map_cons, head]
      by_cases found : other = entryName
      · -- The first entry of the name counts on both sides, changed or not.
        rw [found, List.lookup_cons_self, List.lookup_cons_self, Option.map_some]
      · have elsewhere : (other == entryName) = false := beq_false_of_ne found
        simp only [List.lookup_cons, elsewhere, inductionHypothesis]

end ListInvocation
