/-!
Contract: the longest run of one kind of characters at the start of a text.

Owns: what is taken and what is left where a run is followed by another character or by
nothing.

Does not own: which characters are of the kind.
-/

namespace ListInvocation.Text

variable {kind : Char → Bool} {run rest : List Char}

theorem takeWhile_run (inside : ∀ character ∈ run, kind character = true)
    (ended : ∀ character ∈ rest.head?, kind character = false) :
    (run ++ rest).takeWhile kind = run := by
  rw [List.takeWhile_append_of_pos inside]
  cases rest with
  | nil => simp
  | cons character rest => simp [ended character rfl]

theorem dropWhile_run (inside : ∀ character ∈ run, kind character = true)
    (ended : ∀ character ∈ rest.head?, kind character = false) :
    (run ++ rest).dropWhile kind = rest := by
  rw [List.dropWhile_append_of_pos inside]
  cases rest with
  | nil => rfl
  | cons character rest => simp [ended character rfl]

end ListInvocation.Text
