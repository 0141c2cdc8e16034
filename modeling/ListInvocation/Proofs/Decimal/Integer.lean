import ListInvocation.Decimal.Scientific
import ListInvocation.NumberFormat
import ListInvocation.Proofs.Decimal.Natural
import ListInvocation.Proofs.Text.Blank

/-!
Contract: integers in decimal digits, and those of 64 bits among them.

Owns: the texts that spell an integer, in any number of digits, and their reading; which
integers fit 64 bits, and which quotients of them do; and the written form of these, which is
read as it was written.

Does not own: other forms of numbers.
-/

namespace ListInvocation.Decimal

/-! ## Spelled integers -/

/-- A text spells an integer: digits, at least one, alone or behind a minus. There may be any
number of them, and zeros in front. -/
inductive SpellsInteger : List Char → Int → Prop where
  | plain {run : List Char} :
      run ≠ [] → (∀ character ∈ run, isDigit character = true) →
      SpellsInteger run (ofDigits run)
  | negative {run : List Char} :
      run ≠ [] → (∀ character ∈ run, isDigit character = true) →
      SpellsInteger ('-' :: run) (-(ofDigits run : Int))

theorem spellsInteger_digits (number : Nat) : SpellsInteger (digits number) number := by
  have spelled : SpellsInteger (digits number) (ofDigits (digits number)) :=
    .plain Nat.toDigits_ne_nil fun _ member => isDigit_of_mem_digits member
  rwa [ofDigits_digits] at spelled

theorem spellsInteger_minus_digits (number : Nat) :
    SpellsInteger ('-' :: digits number) (-(number : Int)) := by
  have spelled : SpellsInteger ('-' :: digits number) (-(ofDigits (digits number) : Int)) :=
    .negative Nat.toDigits_ne_nil fun _ member => isDigit_of_mem_digits member
  rwa [ofDigits_digits] at spelled

/-- No sign is a digit. -/
theorem ne_of_isDigit {digit sign : Char} (isFirst : isDigit digit = true)
    (notDigit : isDigit sign = false) : digit ≠ sign := by
  intro same
  rw [same, notDigit] at isFirst
  contradiction

/-- A run that begins with a digit has no sign. -/
theorem splitSign_of_isDigit {digit : Char} (isFirst : isDigit digit = true)
    (rest : List Char) : splitSign (digit :: rest) = (false, digit :: rest) := by
  unfold splitSign
  split
  next shape => exact absurd (List.cons.inj shape).1 (ne_of_isDigit isFirst rfl)
  next shape => exact absurd (List.cons.inj shape).1 (ne_of_isDigit isFirst rfl)
  next => rfl

section Spelled

variable {text : List Char} {number : Int}

/-- A spelled integer holds digits and a minus only. -/
theorem SpellsInteger.characters (spells : SpellsInteger text number) :
    ∀ character ∈ text, character = '-' ∨ isDigit character = true := by
  cases spells with
  | plain _ digits => exact fun character member => .inr (digits character member)
  | negative _ digits =>
      intro character member
      rcases List.mem_cons.mp member with sign | digit
      · exact .inl sign
      · exact .inr (digits character digit)

theorem SpellsInteger.exists_first (spells : SpellsInteger text number) :
    ∃ first rest, text = first :: rest ∧ (first = '-' ∨ isDigit first = true) := by
  obtain ⟨first, rest, shape⟩ : ∃ first rest, text = first :: rest := by
    cases spells with
    | plain nonempty _ => exact List.exists_cons_of_ne_nil nonempty
    | negative => exact ⟨_, _, rfl⟩
  exact ⟨first, rest, shape, spells.characters first (shape ▸ List.mem_cons_self)⟩

/-- A spelled integer is read as the number that it denotes, however great. -/
theorem SpellsInteger.readInteger? (spells : SpellsInteger text number) :
    Decimal.readInteger? text = some number := by
  cases spells with
  | plain nonempty digits =>
      have allDigits : text.all isDigit = true := List.all_eq_true.mpr digits
      have unsigned : splitSign text = (false, text) := by
        cases text with
        | nil => exact absurd rfl nonempty
        | cons digit rest =>
            exact splitSign_of_isDigit (digits digit List.mem_cons_self) rest
      unfold Decimal.readInteger?
      simp only [unsigned, List.isEmpty_eq_false_iff.mpr nonempty, allDigits]
      rfl
  | @negative run nonempty digits =>
      have allDigits : run.all isDigit = true := List.all_eq_true.mpr digits
      unfold Decimal.readInteger?
      simp only [splitSign, List.isEmpty_eq_false_iff.mpr nonempty, allDigits]
      rfl

end Spelled

/-! ## Integers of 64 bits -/

def FitsInt64 (number : Int) : Prop :=
  Int64.minValue.toInt ≤ number ∧ number ≤ Int64.maxValue.toInt

instance (number : Int) : Decidable (FitsInt64 number) :=
  inferInstanceAs (Decidable (_ ∧ _))

theorem toInt64?_of_fits {number : Int} (fits : FitsInt64 number) :
    toInt64? number = some (Int64.ofInt number) :=
  if_pos fits

theorem toInt64?_of_not_fits {number : Int} (unfit : ¬ FitsInt64 number) :
    toInt64? number = none :=
  if_neg unfit

theorem toInt_ofInt_of_fits {number : Int} (fits : FitsInt64 number) :
    (Int64.ofInt number).toInt = number :=
  Int64.toInt_ofInt_of_le fits.1 (Int.lt_of_le_of_lt fits.2 (by decide))

theorem fitsInt64_toInt (number : Int64) : FitsInt64 number.toInt :=
  ⟨number.minValue_le_toInt, number.toInt_le⟩

/-- One quotient of integers of 64 bits does not fit them, that of the least one by minus
one. -/
theorem fitsInt64_tdiv_iff {left right : Int} (fits : FitsInt64 left) :
    FitsInt64 (left.tdiv right) ↔ ¬ (left = Int64.minValue.toInt ∧ right = -1) := by
  have magnitude : (left.tdiv right).natAbs = left.natAbs / right.natAbs :=
    Int.natAbs_tdiv left right
  unfold FitsInt64 at *
  rw [Int64.toInt_minValue, Int64.toInt_maxValue] at *
  constructor
  · rintro quotientFits ⟨rfl, rfl⟩
    exact absurd quotientFits (by decide)
  · intro other
    by_cases small : right.natAbs ≤ 1
    · obtain rfl | rfl | rfl : right = 0 ∨ right = 1 ∨ right = -1 := by omega
      · rw [Int.tdiv_zero]
        omega
      · rw [Int.tdiv_one]
        exact fits
      · rw [Int.tdiv_neg, Int.tdiv_one]
        omega
    · have halved : left.natAbs / right.natAbs ≤ left.natAbs / 2 :=
        Nat.div_le_div_left (by omega) (by decide)
      omega

theorem toInt64?_toInt (number : Int64) : toInt64? number.toInt = some number := by
  rw [toInt64?_of_fits (fitsInt64_toInt number), Int64.ofInt_toInt]

/-- A written integer spells itself. -/
theorem spellsInteger_renderInt (format : NumberFormat) (number : Int64) :
    SpellsInteger (format.renderInt number).toList number.toInt := by
  unfold NumberFormat.renderInt
  rw [String.toList_ofList]
  by_cases negative : number < 0
  · have below : number.toInt < 0 := Int64.lt_iff_toInt_lt.mp negative
    have magnitude : -(number.toInt.natAbs : Int) = number.toInt := by omega
    have spelled := spellsInteger_minus_digits number.toInt.natAbs
    rw [magnitude] at spelled
    rwa [if_pos negative]
  · have above : ¬ number.toInt < 0 := fun below =>
      negative (Int64.lt_iff_toInt_lt.mpr below)
    have magnitude : (number.toInt.natAbs : Int) = number.toInt := by omega
    have spelled := spellsInteger_digits number.toInt.natAbs
    rw [magnitude] at spelled
    rwa [if_neg negative]

/-- Every integer of 64 bits, the least one too, is read as it was written. -/
theorem readInt64?_renderInt (format : NumberFormat) (number : Int64) :
    readInt64? (format.renderInt number).toList = some number := by
  unfold readInt64?
  rw [(spellsInteger_renderInt format number).readInteger?]
  exact toInt64?_toInt number

/-! ## Blanks -/

/-- No digit is a blank. -/
theorem isBlank_of_isDigit {character : Char} (digit : isDigit character = true) :
    Text.isBlank character = false := by
  have least : 48 ≤ character.toNat := by
    simp only [isDigit, Bool.and_eq_true, decide_eq_true_eq] at digit
    exact digit.1
  have greatest : character.toNat ≤ 57 := by
    simp only [isDigit, Bool.and_eq_true, decide_eq_true_eq] at digit
    exact digit.2
  simp only [Text.isBlank, Bool.or_eq_false_iff, Bool.and_eq_false_iff, decide_eq_false_iff_not,
    beq_eq_false_iff_ne, ne_eq]
  omega

/-- A spelled integer holds no blank. -/
theorem SpellsInteger.clean {text : List Char} {number : Int}
    (spells : SpellsInteger text number) :
    ∀ character ∈ text, Text.isBlank character = false := by
  intro character member
  rcases spells.characters character member with sign | digit
  · rw [sign]
    rfl
  · exact isBlank_of_isDigit digit

end ListInvocation.Decimal
