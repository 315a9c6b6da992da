/-!
# Base64 with the URL alphabet

Bytes as symbols of six bits, without padding. Three bytes make four symbols; one or two bytes at
the end make two or three symbols whose unused bits are zero. `decode` names the first fault it
finds, so that its answer for a faulty text does not depend on how it is implemented.
-/

namespace NodeGate.Base64Url

/-- Why a text is not the encoding of any bytes. Offsets count bytes of the text. -/
inductive Fault where
  | symbol (byte : UInt8) (offset : Nat)
  | length (count : Nat)
  | padding
  | lastSymbol (byte : UInt8) (offset : Nat)
  deriving DecidableEq, Repr

/-- The wording of a fault. -/
def Fault.message : Fault → String
  | .symbol byte offset => s!"Invalid symbol {byte.toNat}, offset {offset}."
  | .length count => s!"Invalid input length: {count}"
  | .padding => "Invalid padding"
  | .lastSymbol byte offset => s!"Invalid last symbol {byte.toNat}, offset {offset}."

/-- The padding sign of other base64 forms, which has no place in this one. -/
def paddingSign : UInt8 := 61

/-- The symbol of a value below 64. -/
def symbol (value : Nat) : UInt8 :=
  if value < 26 then UInt8.ofNat (65 + value)
  else if value < 52 then UInt8.ofNat (71 + value)
  else if value < 62 then UInt8.ofNat (value - 4)
  else if value = 62 then 45
  else 95

/-- The value of a symbol. -/
def value? (byte : UInt8) : Option Nat :=
  let code := byte.toNat
  if 65 ≤ code ∧ code ≤ 90 then some (code - 65)
  else if 97 ≤ code ∧ code ≤ 122 then some (code - 71)
  else if 48 ≤ code ∧ code ≤ 57 then some (code + 4)
  else if code = 45 then some 62
  else if code = 95 then some 63
  else none

/-- The symbols of bytes. -/
def encode : List UInt8 → List UInt8
  | [] => []
  | [first] => [symbol (first.toNat / 4), symbol (first.toNat % 4 * 16)]
  | [first, second] =>
    [symbol (first.toNat / 4), symbol (first.toNat % 4 * 16 + second.toNat / 16),
      symbol (second.toNat % 16 * 4)]
  | first :: second :: third :: rest =>
    symbol (first.toNat / 4) :: symbol (first.toNat % 4 * 16 + second.toNat / 16) ::
      symbol (second.toNat % 16 * 4 + third.toNat / 64) :: symbol (third.toNat % 64) :: encode rest

/-- The value of a symbol at an offset, or the fault that it is none. -/
def valueAt (offset : Nat) (byte : UInt8) : Except Fault Nat :=
  match value? byte with
  | some value => .ok value
  | none => .error (.symbol byte offset)

/-- The three bytes of four symbol values. -/
def unpack (first second third fourth : Nat) : List UInt8 :=
  [UInt8.ofNat (first * 4 + second / 16), UInt8.ofNat (second % 16 * 16 + third / 4),
    UInt8.ofNat (third % 4 * 64 + fourth)]

/-- What reading the last group from left to right finds: the values of its symbols and the place
of its first padding sign. Padding may stand in the last two places and only at the end. -/
def scanLast (offset : Nat) : Nat → Option Nat → List UInt8 → Except Fault (List Nat × Option Nat)
  | _, padding, [] => .ok ([], padding)
  | index, padding, byte :: rest =>
    if byte = paddingSign then
      if index < 2 then .error (.symbol byte (offset + index))
      else scanLast offset (index + 1) (padding <|> some index) rest
    else
      match padding with
      | some start => .error (.symbol paddingSign (offset + start))
      | none => do
        let value ← valueAt (offset + index) byte
        let (values, padding) ← scanLast offset (index + 1) none rest
        return (value :: values, padding)

/-- The bytes of the last group, of at most four symbols. -/
def decodeLast (offset : Nat) (group : List UInt8) : Except Fault (List UInt8) := do
  let (values, padding) ← scanLast offset 0 none group
  let refuseUnused (unused : Nat) (bytes : List UInt8) : Except Fault (List UInt8) :=
    if unused = 0 then .ok bytes
    else
      let last := offset + values.length - 1
      .error (.lastSymbol (group[values.length - 1]?.getD 0) last)
  if group = [] then
    return []
  if values.length < 2 then
    throw (.length (offset + values.length))
  if padding.isSome then
    throw .padding
  match values with
  | [first, second] => refuseUnused (second % 16) [UInt8.ofNat (first * 4 + second / 16)]
  | [first, second, third] =>
    refuseUnused (third % 4)
      [UInt8.ofNat (first * 4 + second / 16), UInt8.ofNat (second % 16 * 16 + third / 4)]
  | [first, second, third, fourth] => return unpack first second third fourth
  | _ => return []

/-- The bytes of symbols from an offset on: groups of four as long as more follows, then the last
group. -/
def decodeFrom (offset : Nat) : List UInt8 → Except Fault (List UInt8)
  | first :: second :: third :: fourth :: next :: rest => do
    let first ← valueAt offset first
    let second ← valueAt (offset + 1) second
    let third ← valueAt (offset + 2) third
    let fourth ← valueAt (offset + 3) fourth
    return unpack first second third fourth ++ (← decodeFrom (offset + 4) (next :: rest))
  | group => decodeLast offset group

/-- A text of one symbol too many is refused for its last byte before all else, unless that byte
is a symbol or a padding sign. -/
def checkSurplus (text : List UInt8) : Except Fault Unit :=
  match text.getLast? with
  | some last =>
    if text.length % 4 = 1 ∧ last ≠ paddingSign ∧ value? last = none then
      .error (.symbol last (text.length - 1))
    else .ok ()
  | none => .ok ()

/-- The bytes whose encoding the text is, or the first fault. -/
def decode (text : List UInt8) : Except Fault (List UInt8) := do
  checkSurplus text
  decodeFrom 0 text

end NodeGate.Base64Url
