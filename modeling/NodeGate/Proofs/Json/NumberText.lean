import NodeGate.Proofs.Json.Cutting

/-!
# Texts of numbers

`NumberText` is the grammar of JSON numbers. A number is cut off as one token wherever the next
byte does not go on with it (`tokens_number`), whatever its size.
-/

namespace NodeGate.Json

/-- A run of digits, of at least one. -/
def Digits (text : List UInt8) : Prop :=
  text ≠ [] ∧ ∀ byte ∈ text, isDigitByte byte = true

/-- The whole part of a number, which begins with a zero only if it is one. -/
inductive WholePart : List UInt8 → Prop where
  | zero : WholePart [0x30]
  | digits {text : List UInt8} (digits : Digits text) (noZero : text.head? ≠ some 0x30) :
      WholePart text

/-- The fraction of a number, if it has one. -/
inductive Fraction : List UInt8 → Prop where
  | none : Fraction []
  | point {text : List UInt8} (digits : Digits text) : Fraction (0x2E :: text)

/-- The exponent of a number, if it has one. -/
inductive Exponent : List UInt8 → Prop where
  | none : Exponent []
  | power {letter : UInt8} {sign text : List UInt8} (letters : letter ∈ [0x45, 0x65])
      (signs : sign ∈ [[], [0x2B], [0x2D]]) (digits : Digits text) :
      Exponent (letter :: sign ++ text)

/-- The text of a number. -/
inductive NumberText : List UInt8 → Prop where
  | parts {minus whole fraction exponent : List UInt8} (signs : minus ∈ [[], [0x2D]])
      (wholePart : WholePart whole) (fractionPart : Fraction fraction)
      (exponentPart : Exponent exponent) : NumberText (minus ++ whole ++ fraction ++ exponent)

/-- No digit comes next. -/
def NoDigit (rest : List UInt8) : Prop :=
  ∀ byte, rest.head? = some byte → isDigitByte byte = false

/-- What comes next does not go on with a number. -/
structure EndsNumber (rest : List UInt8) : Prop where
  noDigit : NoDigit rest
  noPoint : rest.head? ≠ some 0x2E
  noLetter : ∀ letter ∈ [0x45, 0x65], rest.head? ≠ some letter

/-- Digits are taken up to where no digit comes next. -/
theorem takeDigits_append {text rest : List UInt8} (digits : Digits text) (ends : NoDigit rest) :
    takeDigits (text ++ rest) = some (text, rest) := by
  have none : rest.takeWhile isDigitByte = [] ∧ rest.dropWhile isDigitByte = rest := by
    cases rest with
    | nil => exact ⟨rfl, rfl⟩
    | cons byte more => simp [ends byte rfl]
  have taken : (text ++ rest).takeWhile isDigitByte = text := by
    rw [List.takeWhile_append_of_pos digits.2, none.1, List.append_nil]
  have left : (text ++ rest).dropWhile isDigitByte = rest := by
    rw [List.dropWhile_append_of_pos digits.2, none.2]
  rw [takeDigits, taken, left, if_neg digits.1]

/-- A whole part is taken up to where no digit comes next. -/
theorem takeWhole_append {whole rest : List UInt8} (part : WholePart whole) (ends : NoDigit rest) :
    takeWhole (whole ++ rest) = some (whole, rest) := by
  cases part with
  | zero => rfl
  | digits digits noZero =>
      unfold takeWhole
      split
      · rename_i begins
        cases whole with
        | nil => exact absurd rfl digits.1
        | cons byte more =>
            rw [List.cons_append] at begins
            cases begins
            exact absurd rfl noZero
      · exact takeDigits_append digits ends

/-- A fraction is taken up to where neither a digit nor a point comes next. -/
theorem takeFraction_append {fraction rest : List UInt8} (part : Fraction fraction)
    (ends : NoDigit rest) (noPoint : rest.head? ≠ some 0x2E) :
    takeFraction (fraction ++ rest) = some (fraction, rest) := by
  cases part with
  | none =>
      rw [List.nil_append]
      unfold takeFraction
      split
      · exact absurd rfl noPoint
      · rfl
  | point digits =>
      rename_i text
      change (takeDigits (text ++ rest)).map _ = _
      rw [takeDigits_append digits ends]
      rfl

/-- A sign is taken from in front of digits. -/
theorem takeSign_append {sign text : List UInt8} (signs : sign ∈ [[], [0x2B], [0x2D]])
    (digits : ∀ byte, text.head? = some byte → isDigitByte byte = true) :
    takeSign (sign ++ text) = (sign, text) := by
  simp only [List.mem_cons, List.not_mem_nil, or_false] at signs
  rcases signs with rfl | rfl | rfl
  · rw [List.nil_append]
    unfold takeSign
    split
    · exact absurd (digits _ rfl) (by decide)
    · exact absurd (digits _ rfl) (by decide)
    · rfl
  · rfl
  · rfl

/-- The first of digits is a digit. -/
theorem Digits.head {text : List UInt8} (digits : Digits text) (rest : List UInt8) :
    ∀ byte, (text ++ rest).head? = some byte → isDigitByte byte = true := by
  intro byte first
  cases text with
  | nil => exact absurd rfl digits.1
  | cons digit more =>
      cases first
      exact digits.2 _ List.mem_cons_self

/-- An exponent is taken up to where the number ends. -/
theorem takeExponent_append {exponent rest : List UInt8} (part : Exponent exponent)
    (ends : EndsNumber rest) : takeExponent (exponent ++ rest) = some (exponent, rest) := by
  cases part with
  | none =>
      cases rest with
      | nil => rfl
      | cons byte more =>
          have noLetter : ¬ (byte = 0x45 ∨ byte = 0x65) := by
            rintro (rfl | rfl)
            · exact ends.noLetter _ (by decide) rfl
            · exact ends.noLetter _ (by decide) rfl
          rw [List.nil_append, takeExponent, if_neg noLetter]
  | power letters signs digits =>
      rename_i letter sign text
      have isLetter : letter = 0x45 ∨ letter = 0x65 := by simpa using letters
      rw [List.cons_append, List.cons_append, List.append_assoc, takeExponent, if_pos isLetter,
        takeSign_append signs (digits.head rest), takeDigits_append digits ends.noDigit]
      rfl

/-- Where an exponent or the end of the number comes next, no digit and no point does. -/
theorem Exponent.begins {exponent rest : List UInt8} (part : Exponent exponent)
    (ends : EndsNumber rest) :
    NoDigit (exponent ++ rest) ∧ (exponent ++ rest).head? ≠ some 0x2E := by
  cases part with
  | none => exact ⟨ends.noDigit, ends.noPoint⟩
  | power letters signs digits =>
      simp only [List.mem_cons, List.not_mem_nil, or_false] at letters
      rcases letters with rfl | rfl
      · exact ⟨fun byte first => by cases first; decide, by simp⟩
      · exact ⟨fun byte first => by cases first; decide, by simp⟩

/-- Where a fraction comes next, or what follows one, no digit does. -/
theorem Fraction.begins {fraction rest : List UInt8} (part : Fraction fraction)
    (ends : NoDigit rest) : NoDigit (fraction ++ rest) := by
  cases part with
  | none => exact ends
  | point digits =>
      intro byte first
      cases first
      decide

/-- A whole part begins with a digit. -/
theorem WholePart.head {whole : List UInt8} (part : WholePart whole) :
    ∃ byte more, whole = byte :: more ∧ isDigitByte byte = true := by
  cases part with
  | zero => exact ⟨0x30, [], rfl, by decide⟩
  | digits digits noZero =>
      cases whole with
      | nil => exact absurd rfl digits.1
      | cons byte more => exact ⟨byte, more, rfl, digits.2 byte List.mem_cons_self⟩

/-- A minus sign is taken from in front of a digit. -/
theorem takeMinus_append {minus whole : List UInt8} (signs : minus ∈ [[], [0x2D]])
    (part : WholePart whole) (rest : List UInt8) :
    takeMinus (minus ++ (whole ++ rest)) = (minus, whole ++ rest) := by
  simp only [List.mem_cons, List.not_mem_nil, or_false] at signs
  rcases signs with rfl | rfl
  · obtain ⟨byte, more, rfl, digit⟩ := part.head
    rw [List.nil_append, List.cons_append]
    unfold takeMinus
    split
    · rename_i begins
      cases begins
      exact absurd digit (by decide)
    · rfl
  · rfl

/-- A number is taken up to where it ends. -/
theorem takeNumber_append {number rest : List UInt8} (text : NumberText number)
    (ends : EndsNumber rest) : takeNumber (number ++ rest) = some (number, rest) := by
  cases text with
  | parts signs wholePart fractionPart exponentPart =>
      rename_i minus whole fraction exponent
      have afterFraction := exponentPart.begins ends
      have afterWhole := fractionPart.begins afterFraction.1
      rw [List.append_assoc, List.append_assoc, List.append_assoc, takeNumber,
        takeMinus_append signs wholePart]
      simp only [takeWhole_append wholePart afterWhole,
        takeFraction_append fractionPart afterFraction.1 afterFraction.2,
        takeExponent_append exponentPart ends, Option.bind_eq_bind, Option.bind_some,
        Option.pure_def]

/-- A byte that may begin a number begins no other token. -/
theorem takeToken_of_number {first : UInt8} (begins : first = 0x2D ∨ isDigitByte first = true)
    (rest : List UInt8) :
    isBlankByte first = false ∧
      takeToken first rest =
        (takeNumber (first :: rest)).map fun (spelling, left) => (.number spelling, left) := by
  have range : 0x2D ≤ first.toNat ∧ first.toNat ≤ 0x39 := by
    rcases begins with rfl | digit
    · decide
    · simp only [isDigitByte, Bool.and_eq_true, decide_eq_true_eq] at digit
      omega
  have visible : ∀ blank : UInt8, blank.toNat < 0x2D → first ≠ blank := by
    rintro blank small rfl
    omega
  constructor
  · simp [isBlankByte, visible 0x20 (by decide), visible 0x09 (by decide),
      visible 0x0A (by decide), visible 0x0D (by decide)]
  · unfold takeToken
    split
    all_goals first | omega | rfl

/-- A number is cut off with its token where it ends. -/
theorem tokens_number {number rest : List UInt8} (text : NumberText number)
    (ends : EndsNumber rest) :
    tokens (number ++ rest) = (tokens rest).map (.number number :: ·) := by
  have taken := takeNumber_append text ends
  have begins : ∃ first more, number = first :: more ∧
      (first = 0x2D ∨ isDigitByte first = true) := by
    cases text with
    | parts signs wholePart fractionPart exponentPart =>
        obtain ⟨byte, more, rfl, digit⟩ := wholePart.head
        simp only [List.mem_cons, List.not_mem_nil, or_false] at signs
        rcases signs with rfl | rfl
        · exact ⟨byte, _, rfl, .inr digit⟩
        · exact ⟨0x2D, _, rfl, .inl rfl⟩
  obtain ⟨first, more, rfl, begins⟩ := begins
  obtain ⟨visible, token⟩ := takeToken_of_number begins (more ++ rest)
  rw [List.cons_append] at taken ⊢
  refine tokens_cons visible ?_
  rw [token, taken]
  rfl

end NodeGate.Json
