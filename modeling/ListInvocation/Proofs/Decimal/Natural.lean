import ListInvocation.Decimal.Natural

/-!
Contract: laws of natural numbers in decimal digits.

Owns: written digits are digits, denote the number that was written, and are as many
as the width or the number asks for; and the bound on what a run of digits denotes.

Does not own: signs, or which runs of digits a grammar takes.
-/

namespace ListInvocation.Decimal

/-! ## Digits -/

theorem isDigit_eq (character : Char) : isDigit character = character.isDigit := rfl

theorem isDigit_of_mem_digits {number : Nat} {character : Char}
    (member : character ∈ digits number) : isDigit character = true := by
  rw [isDigit_eq]
  exact Nat.isDigit_of_mem_toDigits (by omega) (by omega) member

/-- A digit takes one byte. -/
theorem utf8Size_of_isDigit {character : Char} (digit : isDigit character = true) :
    character.utf8Size = 1 := by
  have upper : character ≤ '9' := by
    simp only [isDigit, Bool.and_eq_true, decide_eq_true_eq] at digit
    exact digit.2
  have bound : character.val ≤ 127 := Nat.le_trans upper (by decide)
  exact Char.utf8Size_eq_one_iff.mpr bound

/-! ## Values -/

private theorem foldl_digitValue (run : List Char) (initial : Nat) :
    run.foldl (fun value digit => value * 10 + digitValue digit) initial =
      Nat.ofDigitChars 10 run initial := by
  induction run generalizing initial with
  | nil => simp
  | cons digit rest inductionHypothesis =>
      rw [List.foldl_cons, inductionHypothesis, Nat.ofDigitChars_cons, Nat.mul_comm]
      rfl

theorem ofDigits_eq (run : List Char) : ofDigits run = Nat.ofDigitChars 10 run 0 :=
  foldl_digitValue run 0

/-- The digits of a number denote it. -/
theorem ofDigits_digits (number : Nat) : ofDigits (digits number) = number := by
  rw [ofDigits_eq, digits, Nat.ofDigitChars_ten_toDigits]

theorem digitValue_le {character : Char} (digit : isDigit character = true) :
    digitValue character ≤ 9 := by
  have upper : character.val.toNat ≤ 57 := by
    simp only [isDigit, Bool.and_eq_true, decide_eq_true_eq] at digit
    exact digit.2
  have value : digitValue character = character.val.toNat - 48 := rfl
  omega

private theorem foldl_digitValue_lt {run : List Char}
    (digits : ∀ character ∈ run, isDigit character = true) (initial : Nat) :
    run.foldl (fun value digit => value * 10 + digitValue digit) initial <
      (initial + 1) * Nat.pow 10 run.length := by
  induction run generalizing initial with
  | nil => simp
  | cons first rest inductionHypothesis =>
      obtain ⟨isFirst, others⟩ := List.forall_mem_cons.mp digits
      have value := digitValue_le isFirst
      have step : initial * 10 + digitValue first + 1 ≤ (initial + 1) * 10 := by omega
      calc (first :: rest).foldl (fun value digit => value * 10 + digitValue digit) initial
          < (initial * 10 + digitValue first + 1) * Nat.pow 10 rest.length :=
            inductionHypothesis others _
        _ ≤ (initial + 1) * 10 * Nat.pow 10 rest.length := Nat.mul_le_mul_right _ step
        _ = (initial + 1) * (Nat.pow 10 rest.length * 10) := by
            rw [Nat.mul_assoc, Nat.mul_comm 10]

/-- A run denotes less than the power of ten with as many zeros. -/
theorem ofDigits_lt {run : List Char} (digits : ∀ character ∈ run, isDigit character = true) :
    ofDigits run < Nat.pow 10 run.length := by
  have below := foldl_digitValue_lt digits 0
  rwa [Nat.zero_add, Nat.one_mul] at below

/-! ## Padding -/

theorem isDigit_of_mem_paddedDigits {width number : Nat} {character : Char}
    (member : character ∈ paddedDigits width number) : isDigit character = true := by
  simp only [paddedDigits, List.mem_append] at member
  rcases member with padding | bare
  · rw [List.eq_of_mem_replicate padding]
    rfl
  · exact isDigit_of_mem_digits bare

/-- Leading zeros change nothing. -/
theorem ofDigits_paddedDigits (width number : Nat) :
    ofDigits (paddedDigits width number) = number := by
  rw [ofDigits_eq, paddedDigits, Nat.ofDigitChars_append, Nat.ofDigitChars_replicate_zero,
    Nat.mul_zero, ← ofDigits_eq, ofDigits_digits]

theorem length_paddedDigits (width number : Nat) :
    (paddedDigits width number).length = max width (digits number).length := by
  simp only [paddedDigits, List.length_append, List.length_replicate]
  omega

/-- A number below a power of ten has at most as many digits as its exponent says. -/
theorem length_digits_le {number count : Nat} (positive : 0 < count)
    (small : number < Nat.pow 10 count) : (digits number).length ≤ count :=
  (Nat.length_toDigits_le_iff (by omega) positive).mpr small

/-- A greater number has no fewer digits. -/
theorem length_digits_mono {small large : Nat} (le : small ≤ large) :
    (digits small).length ≤ (digits large).length := by
  have positive : 0 < (digits large).length := Nat.length_toDigits_pos
  refine length_digits_le positive (Nat.lt_of_le_of_lt le ?_)
  exact (Nat.length_toDigits_le_iff (by omega) positive).mp (Nat.le_refl _)

end ListInvocation.Decimal
