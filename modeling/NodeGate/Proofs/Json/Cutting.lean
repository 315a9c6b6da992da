import NodeGate.Proofs.Json.TokenView

/-!
# Texts are cut into tokens

`CutInto` says that a text is cut off as given tokens whatever follows it, and such texts may be
put one after the other. A quoted string is cut off where its closing quotation mark was written,
provided that what it quotes is taken as it stands (`TakenPiece`).
-/

namespace NodeGate.Json

open NodeGate.Text

/-- A spelling that ends where its closing quotation mark was written, whatever follows. -/
def WholeSpelling (spelling : List UInt8) : Prop :=
  ∀ rest, takeString (spelling ++ 0x22 :: rest) = some (spelling, rest)

/-- A piece of a spelling that is taken as it stands, whatever follows. -/
def TakenPiece (piece : List UInt8) : Prop :=
  ∀ rest, takeString (piece ++ rest) =
    (takeString rest).map fun (spelling, left) => (piece ++ spelling, left)

/-- Nothing is a piece. -/
theorem takenPiece_nil : TakenPiece [] := by
  intro rest
  cases taken : takeString rest <;> simp [taken]

/-- Pieces one after the other are a piece. -/
theorem TakenPiece.append {first second : List UInt8} (firstTaken : TakenPiece first)
    (secondTaken : TakenPiece second) : TakenPiece (first ++ second) := by
  intro rest
  rw [List.append_assoc, firstTaken, secondTaken, Option.map_map]
  simp [Function.comp_def]

/-- A piece with a quotation mark after it is whole. -/
theorem TakenPiece.whole {piece : List UInt8} (taken : TakenPiece piece) :
    WholeSpelling piece := by
  intro rest
  rw [taken]
  simp [takeString]

/-- A byte that is no quotation mark, no backslash and no control is a piece. -/
theorem takenPiece_byte {byte : UInt8} (printable : 0x20 ≤ byte.toNat) (noQuote : byte ≠ 0x22)
    (noBackslash : byte ≠ 0x5C) : TakenPiece [byte] := by
  intro rest
  have visible : ¬ (byte.toNat < 0x20 ∨ byte = 0x5C) := by
    rintro (control | backslash)
    · omega
    · exact noBackslash backslash
  rw [List.singleton_append, takeString]
  · rw [if_neg visible]
    rfl
  · exact noQuote
  · intro _ _ _ _ _ backslash
    exact absurd backslash noBackslash
  · intro _ _ backslash
    exact absurd backslash noBackslash

/-- A backslash with a letter that it may stand before is a piece. -/
theorem takenPiece_escape {letter : UInt8} (known : (simpleEscape? letter).isSome = true) :
    TakenPiece [0x5C, letter] := by
  intro rest
  have notUnicode : letter ≠ 0x75 := by
    rintro rfl
    exact absurd known (by decide)
  rw [List.cons_append, List.singleton_append, takeString]
  · rw [if_pos known]
    rfl
  · intro _ _ _ _ _ unicode
    exact absurd unicode notUnicode

/-- An escape by four hexadecimal digits is a piece. -/
theorem takenPiece_unicode {first second third fourth : UInt8} (firstHex : isHex first = true)
    (secondHex : isHex second = true) (thirdHex : isHex third = true)
    (fourthHex : isHex fourth = true) :
    TakenPiece [0x5C, 0x75, first, second, third, fourth] := by
  intro rest
  simp [takeString, firstHex, secondHex, thirdHex, fourthHex]

/-- A byte that begins a token is cut off with its token. -/
theorem tokens_cons {first : UInt8} {rest left : List UInt8} {token : Token}
    (visible : isBlankByte first = false) (taken : takeToken first rest = some (token, left)) :
    tokens (first :: rest) = (tokens left).map (token :: ·) := by
  rw [tokens, visible]
  simp only [Bool.false_eq_true, if_false]
  split
  · rename_i refused
    rw [taken] at refused
    cases refused
  · rename_i found
    rw [taken] at found
    cases found
    rfl

/-- A text that is cut into given tokens, whatever follows. -/
def CutInto (text : List UInt8) (cut : List Token) : Prop :=
  ∀ rest, tokens (text ++ rest) = (tokens rest).map (cut ++ ·)

/-- Texts one after the other are cut into the tokens of both. -/
theorem CutInto.append {first second : List UInt8} {firstCut secondCut : List Token}
    (firstInto : CutInto first firstCut) (secondInto : CutInto second secondCut) :
    CutInto (first ++ second) (firstCut ++ secondCut) := by
  intro rest
  rw [List.append_assoc, firstInto, secondInto, Option.map_map]
  simp [Function.comp_def]

/-- A mark of one byte is cut into its token. -/
theorem cutInto_mark {mark : UInt8} {token : Token} (visible : isBlankByte mark = false)
    (taken : ∀ rest, takeToken mark rest = some (token, rest)) : CutInto [mark] [token] := by
  intro rest
  exact tokens_cons visible (taken rest)

/-- The comma between two items. -/
theorem cutInto_comma : CutInto [0x2C] [.comma] :=
  cutInto_mark (by decide) fun _ => rfl

/-- The colon after a key. -/
theorem cutInto_colon : CutInto [0x3A] [.colon] :=
  cutInto_mark (by decide) fun _ => rfl

/-- A quoted whole spelling is cut into one string. -/
theorem cutInto_writeString {spelling : List UInt8} (whole : WholeSpelling spelling) :
    CutInto (writeString spelling) [.string spelling] := by
  intro rest
  have taken : takeToken 0x22 (spelling ++ 0x22 :: rest) = some (.string spelling, rest) := by
    change (takeString (spelling ++ 0x22 :: rest)).map _ = _
    rw [whole rest]
    rfl
  rw [writeString, List.cons_append, List.cons_append, List.append_assoc]
  exact tokens_cons (by decide) taken

end NodeGate.Json
