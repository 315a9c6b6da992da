import NodeGate.Json.Spelling

/-!
# JSON tokens

A JSON text is cut into punctuation, words, numbers and strings, with blanks in between. A string
token keeps the spelling as it stands, so that a text can be checked without being understood:
escapes must be well formed, but a lone half of a surrogate pair or bytes that are not UTF-8 are
found only by whoever reads the spelling. A number keeps its spelling for the same reason, and
may be of any size.
-/

namespace NodeGate.Json

open NodeGate.Text

/-- A piece of a JSON text. -/
inductive Token where
  | openArray
  | closeArray
  | openObject
  | closeObject
  | comma
  | colon
  | null
  | bool (value : Bool)
  | number (spelling : List UInt8)
  | string (spelling : List UInt8)
  deriving DecidableEq, Repr

/-- The blanks of JSON: space, tab, line feed and carriage return. -/
def isBlankByte (byte : UInt8) : Bool :=
  byte = 0x20 || byte = 0x09 || byte = 0x0A || byte = 0x0D

/-- Whether a byte is a decimal digit. -/
def isDigitByte (byte : UInt8) : Bool :=
  48 ≤ byte.toNat && byte.toNat ≤ 57

/-- The spelling of a string up to its closing quotation mark, and what follows the mark. -/
def takeString : List UInt8 → Option (List UInt8 × List UInt8)
  | [] => none
  | 0x22 :: rest => some ([], rest)
  | 0x5C :: 0x75 :: first :: second :: third :: fourth :: rest =>
    if isHex first && isHex second && isHex third && isHex fourth then
      (takeString rest).map fun (spelling, left) =>
        (0x5C :: 0x75 :: first :: second :: third :: fourth :: spelling, left)
    else none
  | 0x5C :: letter :: rest =>
    if (simpleEscape? letter).isSome then
      (takeString rest).map fun (spelling, left) => (0x5C :: letter :: spelling, left)
    else none
  | byte :: rest =>
    if byte.toNat < 0x20 ∨ byte = 0x5C then none
    else (takeString rest).map fun (spelling, left) => (byte :: spelling, left)

/-- A nonempty run of digits, and what follows. -/
def takeDigits (text : List UInt8) : Option (List UInt8 × List UInt8) :=
  let digits := text.takeWhile isDigitByte
  if digits = [] then none else some (digits, text.dropWhile isDigitByte)

/-- The whole part of a number: a zero alone, or digits that do not begin with one. -/
def takeWhole (text : List UInt8) : Option (List UInt8 × List UInt8) :=
  match text with
  | 0x30 :: rest => some ([0x30], rest)
  | _ => takeDigits text

/-- A point and digits, where a point stands. -/
def takeFraction (text : List UInt8) : Option (List UInt8 × List UInt8) :=
  match text with
  | 0x2E :: rest => (takeDigits rest).map fun (digits, left) => (0x2E :: digits, left)
  | _ => some ([], text)

/-- A sign, where one stands. -/
def takeSign (text : List UInt8) : List UInt8 × List UInt8 :=
  match text with
  | 0x2B :: rest => ([0x2B], rest)
  | 0x2D :: rest => ([0x2D], rest)
  | _ => ([], text)

/-- The letter E in either case with a signed exponent, where the letter stands. -/
def takeExponent (text : List UInt8) : Option (List UInt8 × List UInt8) :=
  match text with
  | letter :: rest =>
    if letter = 0x45 ∨ letter = 0x65 then
      (takeDigits (takeSign rest).2).map fun (digits, left) =>
        (letter :: (takeSign rest).1 ++ digits, left)
    else some ([], text)
  | [] => some ([], [])

/-- A minus sign, where one stands. -/
def takeMinus (text : List UInt8) : List UInt8 × List UInt8 :=
  match text with
  | 0x2D :: rest => ([0x2D], rest)
  | _ => ([], text)

/-- The spelling of a number, and what follows. -/
def takeNumber (text : List UInt8) : Option (List UInt8 × List UInt8) := do
  let (whole, rest) ← takeWhole (takeMinus text).2
  let (fraction, rest) ← takeFraction rest
  let (exponent, rest) ← takeExponent rest
  return ((takeMinus text).1 ++ whole ++ fraction ++ exponent, rest)

/-- What follows a given word. -/
def takeWord : List UInt8 → List UInt8 → Option (List UInt8)
  | [], text => some text
  | expected :: word, byte :: text => if expected = byte then takeWord word text else none
  | _ :: _, [] => none

/-- The token that begins with a byte, and what follows it. -/
def takeToken (first : UInt8) (rest : List UInt8) : Option (Token × List UInt8) :=
  match first.toNat with
  | 0x5B => some (.openArray, rest)
  | 0x5D => some (.closeArray, rest)
  | 0x7B => some (.openObject, rest)
  | 0x7D => some (.closeObject, rest)
  | 0x2C => some (.comma, rest)
  | 0x3A => some (.colon, rest)
  | 0x22 => (takeString rest).map fun (spelling, left) => (.string spelling, left)
  | 0x6E => (takeWord [0x75, 0x6C, 0x6C] rest).map (.null, ·)
  | 0x74 => (takeWord [0x72, 0x75, 0x65] rest).map (.bool true, ·)
  | 0x66 => (takeWord [0x61, 0x6C, 0x73, 0x65] rest).map (.bool false, ·)
  | _ => (takeNumber (first :: rest)).map fun (spelling, left) => (.number spelling, left)

/-- A string ends no later than its text. -/
theorem length_le_of_takeString {text spelling left : List UInt8}
    (taken : takeString text = some (spelling, left)) : left.length ≤ text.length := by
  fun_induction takeString text generalizing spelling with
  | case1 => simp at taken
  | case2 rest =>
    simp only [Option.some.injEq, Prod.mk.injEq] at taken
    simp [taken.2]
  | case3 first second third fourth rest _ inductionHypothesis =>
    simp only [Option.map_eq_some_iff, Prod.mk.injEq, Prod.exists] at taken
    obtain ⟨inner, after, found, _, rfl⟩ := taken
    have shorter := inductionHypothesis found
    simp only [List.length_cons]
    omega
  | case4 => simp at taken
  | case5 letter rest _ _ inductionHypothesis =>
    simp only [Option.map_eq_some_iff, Prod.mk.injEq, Prod.exists] at taken
    obtain ⟨inner, after, found, _, rfl⟩ := taken
    have shorter := inductionHypothesis found
    simp only [List.length_cons]
    omega
  | case6 => simp at taken
  | case7 => simp at taken
  | case8 byte rest _ _ _ _ inductionHypothesis =>
    simp only [Option.map_eq_some_iff, Prod.mk.injEq, Prod.exists] at taken
    obtain ⟨inner, after, found, _, rfl⟩ := taken
    have shorter := inductionHypothesis found
    simp only [List.length_cons]
    omega

/-- A run of digits takes at least one byte. -/
theorem length_lt_of_takeDigits {text digits left : List UInt8}
    (taken : takeDigits text = some (digits, left)) : left.length < text.length := by
  simp only [takeDigits] at taken
  split at taken
  · simp at taken
  · rename_i some_digits
    simp only [Option.some.injEq, Prod.mk.injEq] at taken
    have parts :=
      congrArg List.length (List.takeWhile_append_dropWhile (p := isDigitByte) (l := text))
    have positive := List.length_pos_iff.2 some_digits
    simp only [List.length_append] at parts
    rw [← taken.2]
    omega

/-- A whole part takes at least one byte. -/
theorem length_lt_of_takeWhole {text whole left : List UInt8}
    (taken : takeWhole text = some (whole, left)) : left.length < text.length := by
  simp only [takeWhole] at taken
  split at taken
  · simp only [Option.some.injEq, Prod.mk.injEq] at taken
    simp [taken.2]
  · exact length_lt_of_takeDigits taken

/-- A fraction takes nothing back. -/
theorem length_le_of_takeFraction {text fraction left : List UInt8}
    (taken : takeFraction text = some (fraction, left)) : left.length ≤ text.length := by
  simp only [takeFraction] at taken
  split at taken
  · simp only [Option.map_eq_some_iff, Prod.mk.injEq, Prod.exists] at taken
    obtain ⟨digits, after, found, _, rfl⟩ := taken
    exact Nat.le_succ_of_le (Nat.le_of_lt (length_lt_of_takeDigits found))
  · simp only [Option.some.injEq, Prod.mk.injEq] at taken
    simp [taken.2]

/-- A sign takes nothing back. -/
theorem length_le_takeSign (text : List UInt8) : (takeSign text).2.length ≤ text.length := by
  simp only [takeSign]
  split <;> simp

/-- A minus sign takes nothing back. -/
theorem length_le_takeMinus (text : List UInt8) : (takeMinus text).2.length ≤ text.length := by
  simp only [takeMinus]
  split <;> simp

/-- An exponent takes nothing back. -/
theorem length_le_of_takeExponent {text exponent left : List UInt8}
    (taken : takeExponent text = some (exponent, left)) : left.length ≤ text.length := by
  simp only [takeExponent] at taken
  split at taken
  · split at taken
    · rename_i letter rest _
      simp only [Option.map_eq_some_iff, Prod.mk.injEq, Prod.exists] at taken
      obtain ⟨digits, after, found, _, rfl⟩ := taken
      have shorter := length_lt_of_takeDigits found
      have signed := length_le_takeSign rest
      simp only [List.length_cons]
      omega
    · simp only [Option.some.injEq, Prod.mk.injEq] at taken
      simp [taken.2]
  · simp only [Option.some.injEq, Prod.mk.injEq] at taken
    simp [taken.2]

/-- A number takes at least one byte. -/
theorem length_lt_of_takeNumber {text spelling left : List UInt8}
    (taken : takeNumber text = some (spelling, left)) : left.length < text.length := by
  simp only [takeNumber, Option.bind_eq_bind, Option.bind_eq_some_iff, Prod.exists,
    Option.pure_def, Option.some.injEq, Prod.mk.injEq] at taken
  obtain ⟨whole, afterWhole, foundWhole, fraction, afterFraction, foundFraction, exponent,
    afterExponent, foundExponent, _, rfl⟩ := taken
  have first := length_lt_of_takeWhole foundWhole
  have second := length_le_of_takeFraction foundFraction
  have third := length_le_of_takeExponent foundExponent
  have signed := length_le_takeMinus text
  omega

/-- A word takes nothing back. -/
theorem length_le_of_takeWord {word text left : List UInt8}
    (taken : takeWord word text = some left) : left.length ≤ text.length := by
  fun_induction takeWord word text with
  | case1 => simp only [Option.some.injEq] at taken; simp [taken]
  | case2 word byte text inductionHypothesis => exact Nat.le_succ_of_le (inductionHypothesis taken)
  | case3 => simp at taken
  | case4 => simp at taken

/-- A token takes at least the byte it begins with. -/
theorem length_le_of_takeToken {first : UInt8} {rest left : List UInt8} {token : Token}
    (taken : takeToken first rest = some (token, left)) : left.length ≤ rest.length := by
  simp only [takeToken] at taken
  split at taken
  iterate 6
    simp only [Option.some.injEq, Prod.mk.injEq] at taken
    simp [taken.2]
  · simp only [Option.map_eq_some_iff, Prod.mk.injEq, Prod.exists] at taken
    obtain ⟨_, after, found, _, rfl⟩ := taken
    exact length_le_of_takeString found
  iterate 3
    simp only [Option.map_eq_some_iff, Prod.mk.injEq] at taken
    obtain ⟨after, found, _, rfl⟩ := taken
    exact length_le_of_takeWord found
  · simp only [Option.map_eq_some_iff, Prod.mk.injEq, Prod.exists] at taken
    obtain ⟨_, after, found, _, rfl⟩ := taken
    exact Nat.le_of_lt_succ (length_lt_of_takeNumber found)

/-- The tokens of a text, or nothing where a piece of it is no token. -/
def tokens (text : List UInt8) : Option (List Token) :=
  match text with
  | [] => some []
  | first :: rest =>
    if isBlankByte first then tokens rest
    else
      match _taken : takeToken first rest with
      | none => none
      | some (token, left) => (tokens left).map (token :: ·)
termination_by text.length
decreasing_by
  · exact Nat.lt_succ_self _
  · exact Nat.lt_succ_of_le (length_le_of_takeToken _taken)

end NodeGate.Json
