import NodeGate.Text.Digits

/-!
# Numerals are read back

The digits that core writes for a number are digits of the base, they write the number, and a
reader of digits stops right behind them when no other digit follows.
-/

namespace NodeGate.Text

/-- A text does not go on with a digit of a base. -/
def EndsNumeral (base : Nat) (rest : List Char) : Prop :=
  rest.takeWhile (isDigitOf base) = []

/-- The end of a text ends a numeral. -/
theorem endsNumeral_nil (base : Nat) : EndsNumeral base [] := rfl

/-- A character that is no digit ends a numeral. -/
theorem endsNumeral_cons {base : Nat} {char : Char} (noDigit : isDigitOf base char = false)
    (rest : List Char) : EndsNumeral base (char :: rest) := by
  simp [EndsNumeral, noDigit]

/-- What ends a numeral is not skipped with its digits. -/
theorem EndsNumeral.dropWhile_eq {base : Nat} {rest : List Char} (ends : EndsNumeral base rest) :
    rest.dropWhile (isDigitOf base) = rest := by
  have whole := List.takeWhile_append_dropWhile (p := isDigitOf base) (l := rest)
  rwa [ends, List.nil_append] at whole

/-- A digit of a base is a digit of every larger base. -/
theorem isDigitOf_of_le {small large : Nat} (atMost : small ≤ large) {char : Char}
    (digit : isDigitOf small char = true) : isDigitOf large char = true := by
  simp only [isDigitOf, digitValue?, Option.isSome_filter, Option.any_eq_true,
    decide_eq_true_eq] at digit ⊢
  obtain ⟨value, found, below⟩ := digit
  exact ⟨value, found, Nat.lt_of_lt_of_le below atMost⟩

/-- What ends a numeral ends one of every smaller base. -/
theorem EndsNumeral.of_le {small large : Nat} (atMost : small ≤ large) {rest : List Char}
    (ends : EndsNumeral large rest) : EndsNumeral small rest := by
  cases rest with
  | nil => rfl
  | cons char others =>
      apply endsNumeral_cons
      cases digit : isDigitOf small char with
      | false => rfl
      | true =>
          have larger := isDigitOf_of_le atMost digit
          simp [EndsNumeral, larger] at ends

/-- Every value up to sixteen has its own digit. -/
theorem digitValue?_digitChar_sixteen :
    ∀ value < 16, digitValue? 16 (Nat.digitChar value) = some value := by
  decide

/-- A smaller base has the digits of its values. -/
theorem digitValue?_digitChar {base value : Nat} (small : base ≤ 16) (below : value < base) :
    digitValue? base (Nat.digitChar value) = some value := by
  have found := digitValue?_digitChar_sixteen value (Nat.lt_of_lt_of_le below small)
  simp only [digitValue?, Option.filter_eq_some_iff] at found ⊢
  exact ⟨found.1, decide_eq_true below⟩

/-- The digits of a number are digits of the base. -/
theorem isDigitOf_of_mem_toDigits {base : Nat} (large : 1 < base) (small : base ≤ 16)
    (number : Nat) : ∀ char ∈ Nat.toDigits base number, isDigitOf base char = true := by
  induction number using Nat.strongRecOn with
  | ind number inductionHypothesis =>
    intro char member
    rw [Nat.toDigits_eq_if large] at member
    split at member
    · rename_i below
      cases List.mem_singleton.1 member
      simp [isDigitOf, digitValue?_digitChar small below]
    · rename_i notBelow
      rcases List.mem_append.1 member with front | last
      · have smaller : number / base < number := Nat.div_lt_self (by omega) large
        exact inductionHypothesis (number / base) smaller char front
      · have below : number % base < base := Nat.mod_lt _ (by omega)
        cases List.mem_singleton.1 last
        simp [isDigitOf, digitValue?_digitChar small below]

/-- One more digit at the end. -/
theorem numeralValue_append_singleton (base : Nat) (digits : List Char) (digit : Char) :
    numeralValue base (digits ++ [digit]) =
      numeralValue base digits * base + (digitValue? base digit).getD 0 := by
  simp [numeralValue, List.foldl_append]

/-- The digits of a number write it. -/
theorem numeralValue_toDigits {base : Nat} (large : 1 < base) (small : base ≤ 16) (number : Nat) :
    numeralValue base (Nat.toDigits base number) = number := by
  induction number using Nat.strongRecOn with
  | ind number inductionHypothesis =>
    rw [Nat.toDigits_eq_if large]
    split
    · rename_i below
      simp [numeralValue, digitValue?_digitChar small below]
    · rename_i notBelow
      have smaller : number / base < number := Nat.div_lt_self (by omega) large
      have below : number % base < base := Nat.mod_lt _ (by omega)
      rw [numeralValue_append_singleton, inductionHypothesis _ smaller,
        digitValue?_digitChar small below, Option.getD_some]
      exact Nat.div_add_mod' number base

/-- Only zero is written with a leading zero. -/
theorem head?_toDigits_ne_zero {base : Nat} (large : 1 < base) (small : base ≤ 16)
    {number : Nat} (positive : 0 < number) : (Nat.toDigits base number).head? ≠ some '0' := by
  induction number using Nat.strongRecOn with
  | ind number inductionHypothesis =>
    rw [Nat.toDigits_eq_if large]
    split
    · rename_i below
      intro zero
      have value := digitValue?_digitChar small below
      have isZero : Nat.digitChar number = '0' := by simpa using zero
      rw [isZero] at value
      simp [digitValue?, Option.filter] at value
      omega
    · rename_i notBelow
      have smaller : number / base < number := Nat.div_lt_self positive large
      have quotient : 0 < number / base := Nat.div_pos (by omega) (by omega)
      have front := inductionHypothesis _ smaller quotient
      cases digits : Nat.toDigits base (number / base) with
      | nil => exact absurd digits Nat.toDigits_ne_nil
      | cons first others =>
          rw [digits] at front
          exact front

/-- A reader of digits takes a number's digits and stops behind them. -/
theorem spanDigits_toDigits_append {base : Nat} (large : 1 < base) (small : base ≤ 16)
    (number : Nat) {rest : List Char} (ends : EndsNumeral base rest) :
    spanDigits base (Nat.toDigits base number ++ rest) = (Nat.toDigits base number, rest) := by
  have digits := isDigitOf_of_mem_toDigits large small number
  rw [spanDigits, List.takeWhile_append_of_pos digits, List.dropWhile_append_of_pos digits,
    ends, ends.dropWhile_eq, List.append_nil]

end NodeGate.Text
