/-!
# UTF-8

Texts as bytes. Encoding is core's; decoding reads one character at a time and refuses a byte
that cannot begin a character, a missing tail byte, a form longer than needed, a surrogate and a
value past the last code point. `decode_encode` shows that decoding inverts encoding.
-/

namespace NodeGate.Text.Utf8

/-- The bytes of a text. -/
def encode (text : List Char) : List UInt8 :=
  text.flatMap String.utf8EncodeChar

/-- The bytes of a string. -/
def ofString (text : String) : List UInt8 :=
  encode text.toList

/-- A tail byte carries six bits under the mark 10. -/
def isTail (byte : UInt8) : Bool :=
  0x80 ≤ byte.toNat && byte.toNat < 0xC0

/-- The character of a code point that needs at least the given value to be written this long. -/
def scalar (least value : Nat) : Option Char :=
  if least ≤ value ∧ value.isValidChar then some (Char.ofNat value) else none

/-- The first character of a nonempty sequence of bytes, and the bytes after it. -/
def decodeChar (first : UInt8) (rest : List UInt8) : Option (Char × List UInt8) :=
  let lead := first.toNat
  if lead < 0x80 then
    some (Char.ofNat lead, rest)
  else if lead < 0xC0 then
    none
  else if lead < 0xE0 then
    match rest with
    | second :: rest =>
      if isTail second then
        (scalar 0x80 (lead % 32 * 64 + second.toNat % 64)).map (·, rest)
      else none
    | _ => none
  else if lead < 0xF0 then
    match rest with
    | second :: third :: rest =>
      if isTail second ∧ isTail third then
        (scalar 0x800 (lead % 16 * 4096 + second.toNat % 64 * 64 + third.toNat % 64)).map (·, rest)
      else none
    | _ => none
  else if lead < 0xF8 then
    match rest with
    | second :: third :: fourth :: rest =>
      if isTail second ∧ isTail third ∧ isTail fourth then
        (scalar 0x10000
          (lead % 8 * 262144 + second.toNat % 64 * 4096 + third.toNat % 64 * 64
            + fourth.toNat % 64)).map (·, rest)
      else none
    | _ => none
  else none

/-- Reading a character takes at least the byte it begins with. -/
theorem length_le_of_decodeChar {first : UInt8} {rest left : List UInt8} {char : Char}
    (read : decodeChar first rest = some (char, left)) : left.length ≤ rest.length := by
  simp only [decodeChar] at read
  split at read
  · simp only [Option.some.injEq, Prod.mk.injEq] at read
    simp [read.2]
  split at read
  · simp at read
  split at read
  · split at read
    · split at read
      · simp only [Option.map_eq_some_iff, Prod.mk.injEq] at read
        obtain ⟨_, _, _, rfl⟩ := read
        simp
      · simp at read
    · simp at read
  split at read
  · split at read
    · split at read
      · simp only [Option.map_eq_some_iff, Prod.mk.injEq] at read
        obtain ⟨_, _, _, rfl⟩ := read
        simp only [List.length_cons]
        omega
      · simp at read
    · simp at read
  split at read
  · split at read
    · split at read
      · simp only [Option.map_eq_some_iff, Prod.mk.injEq] at read
        obtain ⟨_, _, _, rfl⟩ := read
        simp only [List.length_cons]
        omega
      · simp at read
    · simp at read
  · simp at read

/-- The text of a sequence of bytes, if it is one. -/
def decode (bytes : List UInt8) : Option (List Char) :=
  match bytes with
  | [] => some []
  | first :: rest =>
    match _read : decodeChar first rest with
    | none => none
    | some (char, left) => (decode left).map (char :: ·)
termination_by bytes.length
decreasing_by exact Nat.lt_succ_of_le (length_le_of_decodeChar _read)

/-- The string of a sequence of bytes, if it is one. -/
def toString? (bytes : List UInt8) : Option String :=
  (decode bytes).map String.ofList

/-- A character written in front of other bytes is read back. -/
theorem decodeChar_encodeChar (char : Char) (rest : List UInt8) :
    ∃ first tail, String.utf8EncodeChar char = first :: tail ∧
      decodeChar first (tail ++ rest) = some (char, rest) := by
  have valid : char.val.toNat.isValidChar := char.valid
  have same : Char.ofNat char.val.toNat = char := Char.ofNat_toNat char
  simp only [String.utf8EncodeChar]
  generalize char.val.toNat = value at valid same
  have bounds : value < 0xD800 ∨ (0xDFFF < value ∧ value < 0x110000) := valid
  split
  · refine ⟨_, _, rfl, ?_⟩
    have lead : (UInt8.ofNat value).toNat = value := by simp; omega
    simp only [decodeChar, lead]
    rw [if_pos (by omega), same]
    rfl
  split
  · refine ⟨_, _, rfl, ?_⟩
    have lead : (UInt8.ofNat (value / 64 % 32 + 192)).toNat = value / 64 % 32 + 192 := by
      simp; omega
    have second : (UInt8.ofNat (value % 64 + 128)).toNat = value % 64 + 128 := by simp; omega
    simp only [decodeChar, lead, List.cons_append, List.nil_append, isTail, second]
    rw [if_neg (by omega), if_neg (by omega), if_pos (by omega), if_pos (by simp; omega)]
    rw [show (value / 64 % 32 + 192) % 32 * 64 + (value % 64 + 128) % 64 = value by omega]
    simp only [scalar]
    rw [if_pos ⟨by omega, valid⟩, same]
    rfl
  split
  · refine ⟨_, _, rfl, ?_⟩
    have lead : (UInt8.ofNat (value / 4096 % 16 + 224)).toNat = value / 4096 % 16 + 224 := by
      simp; omega
    have second : (UInt8.ofNat (value / 64 % 64 + 128)).toNat = value / 64 % 64 + 128 := by
      simp; omega
    have third : (UInt8.ofNat (value % 64 + 128)).toNat = value % 64 + 128 := by simp; omega
    simp only [decodeChar, lead, List.cons_append, List.nil_append, isTail, second, third]
    rw [if_neg (by omega), if_neg (by omega), if_neg (by omega), if_pos (by omega),
      if_pos (by simp; omega)]
    rw [show (value / 4096 % 16 + 224) % 16 * 4096 + (value / 64 % 64 + 128) % 64 * 64
        + (value % 64 + 128) % 64 = value by omega]
    simp only [scalar]
    rw [if_pos ⟨by omega, valid⟩, same]
    rfl
  · refine ⟨_, _, rfl, ?_⟩
    have lead : (UInt8.ofNat (value / 262144 % 8 + 240)).toNat = value / 262144 % 8 + 240 := by
      simp; omega
    have second : (UInt8.ofNat (value / 4096 % 64 + 128)).toNat = value / 4096 % 64 + 128 := by
      simp; omega
    have third : (UInt8.ofNat (value / 64 % 64 + 128)).toNat = value / 64 % 64 + 128 := by
      simp; omega
    have fourth : (UInt8.ofNat (value % 64 + 128)).toNat = value % 64 + 128 := by simp; omega
    simp only [decodeChar, lead, List.cons_append, List.nil_append, isTail, second, third, fourth]
    rw [if_neg (by omega), if_neg (by omega), if_neg (by omega), if_neg (by omega),
      if_pos (by omega), if_pos (by simp; omega)]
    rw [show (value / 262144 % 8 + 240) % 8 * 262144 + (value / 4096 % 64 + 128) % 64 * 4096
        + (value / 64 % 64 + 128) % 64 * 64 + (value % 64 + 128) % 64 = value by omega]
    simp only [scalar]
    rw [if_pos ⟨by omega, valid⟩, same]
    rfl

/-- Decoding inverts encoding. -/
theorem decode_encode (text : List Char) : decode (encode text) = some text := by
  induction text with
  | nil => simp [encode, decode]
  | cons char rest inductionHypothesis =>
    obtain ⟨first, tail, written, read⟩ := decodeChar_encodeChar char (encode rest)
    have whole : encode (char :: rest) = first :: (tail ++ encode rest) := by
      simp [encode, written]
    rw [whole, decode]
    split
    · rename_i refused
      simp [read] at refused
    · rename_i found
      simp only [read, Option.some.injEq, Prod.mk.injEq] at found
      obtain ⟨rfl, rfl⟩ := found
      simp [inductionHypothesis]

/-- Different texts have different bytes. -/
theorem encode_injective {left right : List Char} (same : encode left = encode right) :
    left = right := by
  have read := congrArg decode same
  simpa [decode_encode] using read

end NodeGate.Text.Utf8
