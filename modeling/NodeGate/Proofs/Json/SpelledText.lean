import NodeGate.Proofs.Json.Grammar

/-!
# Every spelling of a text

`Spelled` says which spellings stand for a text: each of its characters is written as it is, by a
letter after a backslash, by four hexadecimal digits in either case, or, beyond the first plane, by
two escapes that are the halves of a surrogate pair. All of them are legal between quotation marks
(`Spelled.legal`) and are read as the text (`Spelled.unspell`).
-/

namespace NodeGate.Json

open NodeGate.Text

/-- The hexadecimal digits, those above nine in lower case. -/
def lowerDigits : List UInt8 :=
  [0x30, 0x31, 0x32, 0x33, 0x34, 0x35, 0x36, 0x37, 0x38, 0x39, 0x61, 0x62, 0x63, 0x64, 0x65, 0x66]

/-- The hexadecimal digits, those above nine in upper case. -/
def upperDigits : List UInt8 :=
  [0x30, 0x31, 0x32, 0x33, 0x34, 0x35, 0x36, 0x37, 0x38, 0x39, 0x41, 0x42, 0x43, 0x44, 0x45, 0x46]

/-- A byte is the hexadecimal digit of a value. -/
def HexDigit (byte : UInt8) (value : Nat) : Prop :=
  lowerDigits[value]? = some byte ∨ upperDigits[value]? = some byte

/-- Four hexadecimal digits write a number, the most significant first. -/
inductive FourDigits : List UInt8 → Nat → Prop where
  | digits {first second third fourth : UInt8} {a b c d : Nat} (firstDigit : HexDigit first a)
      (secondDigit : HexDigit second b) (thirdDigit : HexDigit third c)
      (fourthDigit : HexDigit fourth d) :
      FourDigits [first, second, third, fourth] (a * 0x1000 + b * 0x100 + c * 0x10 + d)

/-- A piece of a spelling stands for a character. -/
inductive SpelledChar : List UInt8 → Char → Prop where
  /-- The bytes of the character itself. -/
  | plain {char : Char} (printable : 0x20 ≤ char.toNat) (noQuote : char ≠ '"')
      (noBackslash : char ≠ '\\') : SpelledChar (String.utf8EncodeChar char) char
  /-- A letter after a backslash. -/
  | letter {letter : UInt8} {char : Char} (listed : (letter, char) ∈ escapes) :
      SpelledChar [0x5C, letter] char
  /-- The code of the character. -/
  | code {digits : List UInt8} {char : Char} (code : FourDigits digits char.toNat) :
      SpelledChar (0x5C :: 0x75 :: digits) char
  /-- The halves of the surrogate pair of a character beyond the first plane. -/
  | pair {leading trailing : List UInt8} {high low : Nat} {char : Char}
      (leadingHalf : FourDigits leading high) (highRange : 0xD800 ≤ high ∧ high ≤ 0xDBFF)
      (trailingHalf : FourDigits trailing low) (lowRange : 0xDC00 ≤ low ∧ low ≤ 0xDFFF)
      (code : char.toNat = 0x10000 + (high - 0xD800) * 0x400 + (low - 0xDC00)) :
      SpelledChar (0x5C :: 0x75 :: leading ++ 0x5C :: 0x75 :: trailing) char

/-- A spelling stands for a text. -/
inductive Spelled : List UInt8 → List Char → Prop where
  | nil : Spelled [] []
  | cons {piece rest : List UInt8} {char : Char} {text : List Char} (first : SpelledChar piece char)
      (later : Spelled rest text) : Spelled (piece ++ rest) (char :: text)

/-- A digit is read as its value. -/
theorem HexDigit.hexValue {byte : UInt8} {value : Nat} (digit : HexDigit byte value) :
    hexValue? byte = some value := by
  have lower : ∀ value < 16, (lowerDigits[value]?).bind hexValue? = some value := by decide
  have upper : ∀ value < 16, (upperDigits[value]?).bind hexValue? = some value := by decide
  rcases digit with digit | digit
  · obtain ⟨small, _⟩ := List.getElem?_eq_some_iff.1 digit
    have read := lower value small
    rwa [digit] at read
  · obtain ⟨small, _⟩ := List.getElem?_eq_some_iff.1 digit
    have read := upper value small
    rwa [digit] at read

/-- A digit is one. -/
theorem HexDigit.isHex {byte : UInt8} {value : Nat} (digit : HexDigit byte value) :
    isHex byte = true := by
  rw [Json.isHex, digit.hexValue]
  rfl

/-- Four digits after the mark of an escape are legal in front of a legal spelling. -/
theorem FourDigits.legal {digits rest : List UInt8} {value : Nat} (four : FourDigits digits value)
    (later : LegalSpelling rest) : LegalSpelling (0x5C :: 0x75 :: digits ++ rest) := by
  cases four with
  | digits first second third fourth =>
      exact .unicode first.isHex second.isHex third.isHex fourth.isHex later

/-- The bytes of a character are its code or are beyond ASCII. -/
theorem toNat_of_mem_utf8EncodeChar {char : Char} {byte : UInt8}
    (member : byte ∈ String.utf8EncodeChar char) :
    byte.toNat = char.toNat ∨ 0x80 ≤ byte.toNat := by
  have code : char.toNat = char.val.toNat := rfl
  rw [code]
  simp only [String.utf8EncodeChar] at member
  generalize char.val.toNat = value at member
  split at member
  · simp only [List.mem_singleton] at member
    left
    rw [member, UInt8.toNat_ofNat']
    omega
  · right
    split at member
    · simp only [List.mem_cons, List.not_mem_nil, or_false] at member
      rcases member with rfl | rfl <;> rw [UInt8.toNat_ofNat'] <;> omega
    split at member
    · simp only [List.mem_cons, List.not_mem_nil, or_false] at member
      rcases member with rfl | rfl | rfl <;> rw [UInt8.toNat_ofNat'] <;> omega
    · simp only [List.mem_cons, List.not_mem_nil, or_false] at member
      rcases member with rfl | rfl | rfl | rfl <;> rw [UInt8.toNat_ofNat'] <;> omega

/-- Bytes that each stand for themselves are legal in front of a legal spelling. -/
theorem LegalSpelling.bytes {bytes rest : List UInt8}
    (each : ∀ byte ∈ bytes, 0x20 ≤ byte.toNat ∧ byte ≠ 0x22 ∧ byte ≠ 0x5C)
    (later : LegalSpelling rest) : LegalSpelling (bytes ++ rest) := by
  induction bytes with
  | nil => exact later
  | cons byte more inductionHypothesis =>
      obtain ⟨printable, noQuote, noBackslash⟩ := each byte List.mem_cons_self
      have others := inductionHypothesis fun other member =>
        each other (List.mem_cons_of_mem _ member)
      exact .byte printable noQuote noBackslash others

/-- The bytes of a character that needs no escape stand for themselves. -/
theorem plain_of_mem_utf8EncodeChar {char : Char} (printable : 0x20 ≤ char.toNat)
    (noQuote : char ≠ '"') (noBackslash : char ≠ '\\') :
    ∀ byte ∈ String.utf8EncodeChar char, 0x20 ≤ byte.toNat ∧ byte ≠ 0x22 ∧ byte ≠ 0x5C := by
  have isNot {other : Char} (different : char ≠ other) : char.toNat ≠ other.toNat := by
    intro same
    exact different (Char.toNat_inj.1 same)
  intro byte member
  rcases toNat_of_mem_utf8EncodeChar member with code | beyond
  · refine ⟨by omega, ?_, ?_⟩
    · rintro rfl
      exact isNot noQuote code.symm
    · rintro rfl
      exact isNot noBackslash code.symm
  · refine ⟨by omega, ?_, ?_⟩
    · rintro rfl
      exact absurd beyond (by decide)
    · rintro rfl
      exact absurd beyond (by decide)

/-- A piece that stands for a character is legal in front of a legal spelling. -/
theorem SpelledChar.legal {piece rest : List UInt8} {char : Char} (spelled : SpelledChar piece char)
    (later : LegalSpelling rest) : LegalSpelling (piece ++ rest) := by
  cases spelled with
  | plain printable noQuote noBackslash =>
      exact .bytes (plain_of_mem_utf8EncodeChar printable noQuote noBackslash) later
  | letter listed => exact .escape (List.mem_map.2 ⟨_, listed, rfl⟩) later
  | code code => exact code.legal later
  | pair leadingHalf _ trailingHalf _ _ =>
      rw [List.append_assoc]
      exact leadingHalf.legal (trailingHalf.legal later)

/-- A spelling that stands for a text is legal. -/
theorem Spelled.legal {spelling : List UInt8} {text : List Char} (spelled : Spelled spelling text) :
    LegalSpelling spelling := by
  induction spelled with
  | nil => exact .nil
  | cons first _ inductionHypothesis => exact first.legal inductionHypothesis

/-- Four digits are read as what they write. -/
theorem FourDigits.hexUnit {digits : List UInt8} {value : Nat} (four : FourDigits digits value) :
    ∃ first second third fourth, digits = [first, second, third, fourth] ∧
      hexUnit first second third fourth = some value := by
  cases four with
  | digits first second third fourth =>
      refine ⟨_, _, _, _, rfl, ?_⟩
      simp [Json.hexUnit, first.hexValue, second.hexValue, third.hexValue, fourth.hexValue]

/-- An escape by four digits is read as what their number stands for. -/
theorem FourDigits.unspellChar {digits : List UInt8} {value : Nat} (four : FourDigits digits value)
    (rest : List UInt8) :
    unspellChar 0x5C (0x75 :: digits ++ rest) = unspellUnit value rest := by
  obtain ⟨first, second, third, fourth, rfl, unit⟩ := four.hexUnit
  change (Json.hexUnit first second third fourth).bind (unspellUnit · rest) = _
  rw [unit]
  rfl

/-- A number that is no half of a pair is a character. -/
theorem unspellUnit_toNat (char : Char) (rest : List UInt8) :
    unspellUnit char.toNat rest = some (char, rest) := by
  have valid : char.toNat < 0xD800 ∨ (0xDFFF < char.toNat ∧ char.toNat < 0x110000) := char.valid
  have noTrailing : isTrailingHalf char.toNat = false := by
    simp only [isTrailingHalf, Bool.and_eq_false_iff, decide_eq_false_iff_not]
    omega
  have noLeading : isLeadingHalf char.toNat = false := by
    simp only [isLeadingHalf, Bool.and_eq_false_iff, decide_eq_false_iff_not]
    omega
  simp [unspellUnit, noTrailing, noLeading]

/-- A leading half is read together with the trailing half after it. -/
theorem unspellUnit_pair {trailing : List UInt8} {high low : Nat} {char : Char}
    (highRange : 0xD800 ≤ high ∧ high ≤ 0xDBFF) (trailingHalf : FourDigits trailing low)
    (lowRange : 0xDC00 ≤ low ∧ low ≤ 0xDFFF)
    (code : char.toNat = 0x10000 + (high - 0xD800) * 0x400 + (low - 0xDC00))
    (rest : List UInt8) :
    unspellUnit high (0x5C :: 0x75 :: trailing ++ rest) = some (char, rest) := by
  have noTrailing : isTrailingHalf high = false := by
    simp only [isTrailingHalf, Bool.and_eq_false_iff, decide_eq_false_iff_not]
    omega
  have leads : isLeadingHalf high = true := by
    simp only [isLeadingHalf, Bool.and_eq_true, decide_eq_true_eq]
    omega
  have trails : isTrailingHalf low = true := by
    simp only [isTrailingHalf, Bool.and_eq_true, decide_eq_true_eq]
    omega
  have same : Char.ofNat (0x10000 + (high - 0xD800) * 1024 + (low - 0xDC00)) = char := by
    rw [← code, Char.ofNat_toNat]
  obtain ⟨first, second, third, fourth, rfl, unit⟩ := trailingHalf.hexUnit
  simp [unspellUnit, noTrailing, leads, backslashByte, unit, trails, same]

/-- A piece that stands for a character is read as it, whatever follows. -/
theorem SpelledChar.unspellChar {piece : List UInt8} {char : Char}
    (spelled : SpelledChar piece char) (rest : List UInt8) :
    ∃ first tail, piece = first :: tail ∧ unspellChar first (tail ++ rest) = some (char, rest) := by
  cases spelled with
  | plain printable noQuote noBackslash =>
      obtain ⟨first, tail, written, read⟩ := Utf8.decodeChar_encodeChar char rest
      have leads := leads_of_utf8EncodeChar written printable noQuote noBackslash
      refine ⟨first, tail, written, ?_⟩
      simp only [Json.unspellChar, leads.1, leads.2, if_false, read]
  | letter listed =>
      rename_i letter
      have known := simpleEscape?_of_mem_escapes _ listed
      have noUnicode : letter ≠ 0x75 := by
        rintro rfl
        cases known
      refine ⟨0x5C, [letter], rfl, ?_⟩
      simp [Json.unspellChar, backslashByte, noUnicode, known]
  | code code =>
      exact ⟨0x5C, _, rfl, (code.unspellChar rest).trans (unspellUnit_toNat char rest)⟩
  | pair leadingHalf highRange trailingHalf lowRange code =>
      refine ⟨0x5C, _, rfl, ?_⟩
      rw [List.append_eq, List.append_assoc, leadingHalf.unspellChar]
      exact unspellUnit_pair highRange trailingHalf lowRange code rest

/-- A spelling is read character by character. -/
theorem unspell_cons {first : UInt8} {rest left : List UInt8} {char : Char}
    (read : unspellChar first rest = some (char, left)) :
    unspell (first :: rest) = (unspell left).map (char :: ·) := by
  rw [unspell]
  split
  · rename_i refused
    rw [read] at refused
    cases refused
  · rename_i found
    rw [read] at found
    cases found
    rfl

/-- A spelling that stands for a text is read as the text. -/
theorem Spelled.unspell {spelling : List UInt8} {text : List Char}
    (spelled : Spelled spelling text) : unspell spelling = some text := by
  induction spelled with
  | nil => rw [Json.unspell]
  | cons first later inductionHypothesis =>
      rename_i piece rest char text
      obtain ⟨lead, tail, rfl, read⟩ := first.unspellChar rest
      rw [List.cons_append, unspell_cons read, inductionHypothesis]
      rfl

end NodeGate.Json
