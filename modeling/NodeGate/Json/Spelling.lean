import NodeGate.Text.Utf8
import NodeGate.Text.Digits

/-!
# Spellings of JSON strings

The bytes between the quotes of a JSON string are a spelling of a text. `spell` writes the one
spelling this library uses; `unspell` reads every spelling and refuses those that hold a lone
half of a surrogate pair or bytes that are not UTF-8. A text has many spellings, and
`unspell_spell` shows that its own is among those that are read as the text.
-/

namespace NodeGate.Json

open NodeGate.Text

/-- The byte of a quotation mark. -/
def quoteByte : UInt8 := 0x22

/-- The byte of a backslash. -/
def backslashByte : UInt8 := 0x5C

/-- The value of a byte as a hexadecimal digit. -/
def hexValue? (byte : UInt8) : Option Nat :=
  digitValue? 16 (Char.ofNat byte.toNat)

/-- Whether a byte is a hexadecimal digit. -/
def isHex (byte : UInt8) : Bool :=
  (hexValue? byte).isSome

/-- The number that four hexadecimal digits write. -/
def hexUnit (first second third fourth : UInt8) : Option Nat := do
  let first ← hexValue? first
  let second ← hexValue? second
  let third ← hexValue? third
  let fourth ← hexValue? fourth
  return first * 4096 + second * 256 + third * 16 + fourth

/-- The character that a backslash and one letter stand for. -/
def simpleEscape? (letter : UInt8) : Option Char :=
  match letter.toNat with
  | 0x22 => some '"'
  | 0x5C => some '\\'
  | 0x2F => some '/'
  | 0x62 => some (Char.ofNat 8)
  | 0x66 => some (Char.ofNat 12)
  | 0x6E => some '\n'
  | 0x72 => some '\r'
  | 0x74 => some '\t'
  | _ => none

/-- The digit of a value below sixteen, in lower case. -/
def hexDigit (value : Nat) : UInt8 :=
  UInt8.ofNat (if value < 10 then 48 + value else 87 + value)

/-- The spelling of one character: a quotation mark, a backslash and the characters below U+0020
are escaped, by a letter where there is one. -/
def spellChar (char : Char) : List UInt8 :=
  if char = '"' then [backslashByte, 0x22]
  else if char = '\\' then [backslashByte, 0x5C]
  else if char.toNat = 8 then [backslashByte, 0x62]
  else if char.toNat = 9 then [backslashByte, 0x74]
  else if char.toNat = 10 then [backslashByte, 0x6E]
  else if char.toNat = 12 then [backslashByte, 0x66]
  else if char.toNat = 13 then [backslashByte, 0x72]
  else if char.toNat < 0x20 then
    [backslashByte, 0x75, 0x30, 0x30, hexDigit (char.toNat / 16), hexDigit (char.toNat % 16)]
  else String.utf8EncodeChar char

/-- The spelling of a text. -/
def spell (text : List Char) : List UInt8 :=
  text.flatMap spellChar

/-- The spelling of a string. -/
def spellString (text : String) : List UInt8 :=
  spell text.toList

/-- A leading half of a surrogate pair. -/
def isLeadingHalf (unit : Nat) : Bool := 0xD800 ≤ unit && unit < 0xDC00

/-- A trailing half of a surrogate pair. -/
def isTrailingHalf (unit : Nat) : Bool := 0xDC00 ≤ unit && unit < 0xE000

/-- The character of the four digits of an escape; a leading half takes a second escape with its
trailing half. -/
def unspellUnit (unit : Nat) (rest : List UInt8) : Option (Char × List UInt8) :=
  if isTrailingHalf unit then none
  else if isLeadingHalf unit then
    match rest with
    | slash :: letter :: first :: second :: third :: fourth :: rest =>
      if slash = backslashByte ∧ letter = 0x75 then
        match hexUnit first second third fourth with
        | some trailing =>
          if isTrailingHalf trailing then
            some (Char.ofNat (0x10000 + (unit - 0xD800) * 1024 + (trailing - 0xDC00)), rest)
          else none
        | none => none
      else none
    | _ => none
  else some (Char.ofNat unit, rest)

/-- The first character of a nonempty spelling, and the spelling of what follows. -/
def unspellChar (first : UInt8) (rest : List UInt8) : Option (Char × List UInt8) :=
  if first = backslashByte then
    match rest with
    | letter :: rest =>
      if letter = 0x75 then
        match rest with
        | first :: second :: third :: fourth :: rest =>
          (hexUnit first second third fourth).bind (unspellUnit · rest)
        | _ => none
      else (simpleEscape? letter).map (·, rest)
    | [] => none
  else if first.toNat < 0x20 ∨ first = quoteByte then none
  else Utf8.decodeChar first rest

/-- The escape of a code unit leaves no more than stood after it. -/
theorem length_le_of_unspellUnit {unit : Nat} {rest left : List UInt8} {char : Char}
    (read : unspellUnit unit rest = some (char, left)) : left.length ≤ rest.length := by
  simp only [unspellUnit] at read
  split at read
  · simp at read
  split at read
  · split at read
    · split at read
      · split at read
        · split at read
          · simp only [Option.some.injEq, Prod.mk.injEq] at read
            simp only [← read.2, List.length_cons]
            omega
          · simp at read
        · simp at read
      · simp at read
    · simp at read
  · simp only [Option.some.injEq, Prod.mk.injEq] at read
    simp [read.2]

/-- Reading a character of a spelling takes at least the byte it begins with. -/
theorem length_le_of_unspellChar {first : UInt8} {rest left : List UInt8} {char : Char}
    (read : unspellChar first rest = some (char, left)) : left.length ≤ rest.length := by
  simp only [unspellChar] at read
  split at read
  · split at read
    · split at read
      · split at read
        · simp only [Option.bind_eq_some_iff] at read
          obtain ⟨unit, _, taken⟩ := read
          have shorter := length_le_of_unspellUnit taken
          simp only [List.length_cons]
          omega
        · simp at read
      · simp only [Option.map_eq_some_iff, Prod.mk.injEq] at read
        obtain ⟨_, _, _, rfl⟩ := read
        simp
    · simp at read
  split at read
  · simp at read
  · exact Utf8.length_le_of_decodeChar read

/-- The text that a spelling is read as, if it is one. -/
def unspell (spelling : List UInt8) : Option (List Char) :=
  match spelling with
  | [] => some []
  | first :: rest =>
    match _read : unspellChar first rest with
    | none => none
    | some (char, left) => (unspell left).map (char :: ·)
termination_by spelling.length
decreasing_by exact Nat.lt_succ_of_le (length_le_of_unspellChar _read)

/-- A digit of a value below sixteen is read as the value. -/
theorem hexValue?_hexDigit : ∀ value < 16, hexValue? (hexDigit value) = some value := by
  decide

/-- The encoding of a character that needs no escape begins with no byte that a spelling gives
another meaning. -/
theorem leads_of_utf8EncodeChar {char : Char} {first : UInt8} {tail : List UInt8}
    (written : String.utf8EncodeChar char = first :: tail) (printable : 0x20 ≤ char.toNat)
    (noQuote : char ≠ '"') (noBackslash : char ≠ '\\') :
    first ≠ backslashByte ∧ ¬ (first.toNat < 0x20 ∨ first = quoteByte) := by
  obtain ⟨lead, others, same, read⟩ := Utf8.decodeChar_encodeChar char []
  obtain ⟨rfl, rfl⟩ := List.cons.inj (written.symm.trans same)
  by_cases ascii : first.toNat < 0x80
  · simp only [Utf8.decodeChar, ascii, if_true, Option.some.injEq, Prod.mk.injEq] at read
    have code : char.toNat = first.toNat := by
      rw [← read.1, Char.ofNat, dif_pos (Or.inl (by omega))]
      rfl
    refine ⟨fun equal => noBackslash ?_, ?_⟩
    · rw [← read.1, equal]
      rfl
    · rintro (control | equal)
      · omega
      · refine noQuote ?_
        rw [← read.1, equal]
        rfl
  · refine ⟨fun equal => ascii (equal ▸ by decide), ?_⟩
    rintro (control | equal)
    · omega
    · exact ascii (equal ▸ by decide)

/-- The spelling of a character in front of others is read back. -/
theorem unspellChar_spellChar (char : Char) (rest : List UInt8) :
    ∃ first tail, spellChar char = first :: tail ∧
      unspellChar first (tail ++ rest) = some (char, rest) := by
  have ofCode {code : Nat} (same : char.toNat = code) : Char.ofNat code = char :=
    same ▸ Char.ofNat_toNat char
  simp only [spellChar]
  split
  · rename_i equal
    exact ⟨_, _, rfl, equal ▸ rfl⟩
  split
  · rename_i equal
    exact ⟨_, _, rfl, equal ▸ rfl⟩
  split
  · rename_i code
    exact ⟨_, _, rfl, ofCode code ▸ rfl⟩
  split
  · rename_i code
    exact ⟨_, _, rfl, ofCode code ▸ rfl⟩
  split
  · rename_i code
    exact ⟨_, _, rfl, ofCode code ▸ rfl⟩
  split
  · rename_i code
    exact ⟨_, _, rfl, ofCode code ▸ rfl⟩
  split
  · rename_i code
    exact ⟨_, _, rfl, ofCode code ▸ rfl⟩
  split
  · rename_i control
    refine ⟨_, _, rfl, ?_⟩
    have high := hexValue?_hexDigit (char.toNat / 16) (by omega)
    have low := hexValue?_hexDigit (char.toNat % 16) (by omega)
    have zero : hexValue? 0x30 = some 0 := by decide
    have unit : hexUnit 0x30 0x30 (hexDigit (char.toNat / 16)) (hexDigit (char.toNat % 16)) =
        some char.toNat := by
      simp only [hexUnit, zero, high, low, Option.bind_eq_bind, Option.bind_some, Option.pure_def,
        Option.some.injEq]
      omega
    have noTrailing : isTrailingHalf char.toNat = false := by
      simp only [isTrailingHalf, Bool.and_eq_false_iff, decide_eq_false_iff_not]
      omega
    have noLeading : isLeadingHalf char.toNat = false := by
      simp only [isLeadingHalf, Bool.and_eq_false_iff, decide_eq_false_iff_not]
      omega
    simp [unspellChar, unit, unspellUnit, noTrailing, noLeading]
  · rename_i noQuote noBackslash _ _ _ _ _ printable
    obtain ⟨first, tail, written, read⟩ := Utf8.decodeChar_encodeChar char rest
    have leads := leads_of_utf8EncodeChar written (by omega) noQuote noBackslash
    refine ⟨first, tail, written, ?_⟩
    simp only [unspellChar, leads.1, leads.2, if_false, read]

/-- The spelling of a text is read as the text. -/
theorem unspell_spell (text : List Char) : unspell (spell text) = some text := by
  induction text with
  | nil => simp [spell, unspell]
  | cons char rest inductionHypothesis =>
    obtain ⟨first, tail, written, read⟩ := unspellChar_spellChar char (spell rest)
    have whole : spell (char :: rest) = first :: (tail ++ spell rest) := by
      simp [spell, written]
    rw [whole, unspell]
    split
    · rename_i refused
      simp [read] at refused
    · rename_i found
      simp only [read, Option.some.injEq, Prod.mk.injEq] at found
      obtain ⟨rfl, rfl⟩ := found
      simp [inductionHypothesis]

/-- The string that a spelling is read as, if it is one. -/
def unspellString (spelling : List UInt8) : Option String :=
  (unspell spelling).map String.ofList

end NodeGate.Json
