import ListInvocation.Text.Blank

/-!
Contract: texts and the blanks around them.

Owns: the trim of a text without blanks, a text as its trim with blanks around it, and the
trim of a text that blanks were put around.

Does not own: blanks inside a text.
-/

namespace ListInvocation.Text

theorem dropWhile_isBlank {text : List Char}
    (clean : ∀ character ∈ text, isBlank character = false) :
    text.dropWhile isBlank = text := by
  cases text with
  | nil => rfl
  | cons first rest =>
      have visible : isBlank first = false := clean first List.mem_cons_self
      rw [List.dropWhile_cons, visible]
      rfl

/-- A text without blanks is its own trim. -/
theorem trim_of_clean {text : List Char}
    (clean : ∀ character ∈ text, isBlank character = false) : trim text = text := by
  have reversed : ∀ character ∈ text.reverse, isBlank character = false :=
    fun character member => clean character (List.mem_reverse.mp member)
  unfold trim trimStart trimEnd
  rw [dropWhile_isBlank clean, dropWhile_isBlank reversed, List.reverse_reverse]

/-! ## Blanks around a text -/

/-- A text of nothing but blanks. -/
def Blank (text : List Char) : Prop :=
  ∀ character ∈ text, isBlank character = true

theorem blank_takeWhile (text : List Char) : Blank (text.takeWhile isBlank) :=
  List.all_eq_true.mp List.all_takeWhile

theorem Blank.reverse {text : List Char} (blank : Blank text) : Blank text.reverse :=
  fun character member => blank character (List.mem_reverse.mp member)

theorem trimStart_blank_append {front : List Char} (blank : Blank front) (text : List Char) :
    trimStart (front ++ text) = trimStart text :=
  List.dropWhile_append_of_pos blank

theorem trimEnd_append_blank {back : List Char} (blank : Blank back) (text : List Char) :
    trimEnd (text ++ back) = trimEnd text := by
  unfold trimEnd
  rw [List.reverse_append]
  exact congrArg List.reverse (List.dropWhile_append_of_pos blank.reverse)

theorem exists_blank_trimEnd (text : List Char) :
    ∃ back, Blank back ∧ text = trimEnd text ++ back := by
  refine ⟨(text.reverse.takeWhile isBlank).reverse, (blank_takeWhile _).reverse, ?_⟩
  unfold trimEnd
  rw [← List.reverse_append, List.takeWhile_append_dropWhile, List.reverse_reverse]

/-- A text is its trim with blanks around it. -/
theorem exists_blank_trim (text : List Char) :
    ∃ front back, Blank front ∧ Blank back ∧ text = front ++ trim text ++ back := by
  obtain ⟨back, backBlank, atEnd⟩ := exists_blank_trimEnd (trimStart text)
  refine ⟨text.takeWhile isBlank, back, blank_takeWhile text, backBlank, ?_⟩
  calc text
      = text.takeWhile isBlank ++ trimStart text := List.takeWhile_append_dropWhile.symm
    _ = text.takeWhile isBlank ++ (trim text ++ back) := congrArg _ atEnd
    _ = text.takeWhile isBlank ++ trim text ++ back := (List.append_assoc _ _ _).symm

/-- Blanks around a text are trimmed away, whatever the text is. -/
theorem trim_blank_append {front back : List Char} (frontBlank : Blank front)
    (backBlank : Blank back) (text : List Char) : trim (front ++ text ++ back) = trim text := by
  have startOfBack := trimStart_blank_append backBlank []
  rw [List.append_nil] at startOfBack
  unfold trim
  rw [List.append_assoc, trimStart_blank_append frontBlank, trimStart, List.dropWhile_append]
  -- A text of blanks only leaves nothing; behind any other the blanks are at the end.
  split
  next onlyBlanks =>
    have nothing : trimStart text = [] := List.isEmpty_iff.mp onlyBlanks
    rw [nothing]
    exact congrArg trimEnd startOfBack
  next => exact trimEnd_append_blank backBlank (trimStart text)

/-- A trim is its own trim. -/
theorem trim_trim (text : List Char) : trim (trim text) = trim text := by
  obtain ⟨front, back, frontBlank, backBlank, parts⟩ := exists_blank_trim text
  exact (congrArg trim parts).trans (trim_blank_append frontBlank backBlank (trim text)) |>.symm

/-! ## Strings -/

/-- A string is its trim with blanks around it. -/
theorem exists_blank_trimmed (text : String) :
    ∃ front back : String, Blank front.toList ∧ Blank back.toList ∧
      text = front ++ trimmed text ++ back := by
  obtain ⟨front, back, frontBlank, backBlank, parts⟩ := exists_blank_trim text.toList
  refine ⟨String.ofList front, String.ofList back, ?_, ?_, ?_⟩
  · rwa [String.toList_ofList]
  · rwa [String.toList_ofList]
  · rw [trimmed, ← String.ofList_append, ← String.ofList_append, ← parts, String.ofList_toList]

/-- Blanks around a string are trimmed away. -/
theorem trimmed_blank_append {front back : String} (frontBlank : Blank front.toList)
    (backBlank : Blank back.toList) (text : String) :
    trimmed (front ++ text ++ back) = trimmed text := by
  unfold trimmed
  rw [String.toList_append, String.toList_append, trim_blank_append frontBlank backBlank]

theorem trimmed_trimmed (text : String) : trimmed (trimmed text) = trimmed text := by
  unfold trimmed
  rw [String.toList_ofList, trim_trim]

end ListInvocation.Text
