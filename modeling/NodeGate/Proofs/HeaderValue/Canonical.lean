import Mathlib.Tactic.ByContra
import NodeGate.Proofs.Base64Url.Bits
import NodeGate.Proofs.Base64Url.Canonical
import NodeGate.Proofs.HeaderValue

/-!
# Each payload has one header value

`Carries` says outright which payload a value carries: after the mark of the version its characters
spell the bits of the payload, six at a time. A value carries a payload exactly when it is what the
payload is wrapped in (`carries_iff`), so that two values never carry the same one, and everything
else is refused before any payload is read: for its version, or for one of the defects that
`Defect` lists (`standsForItsPayload`).
-/

namespace NodeGate.HeaderValue

open NodeGate.Text

/-- The character of a value of six bits. -/
def valueChar (value : Nat) : Char :=
  Char.ofNat (Base64Url.symbol value).toNat

/-- The character of a value stands at its place in the alphabet. -/
theorem idxOf_valueChar : ∀ value < 64, urlAlphabet.idxOf (valueChar value) = value := by
  decide

/-- The alphabet lists the characters of all values. -/
theorem urlAlphabet_eq : urlAlphabet = (List.range 64).map valueChar := by
  decide

/-- Every character of the alphabet is that of its place. -/
theorem valueChar_idxOf {char : Char} (member : char ∈ urlAlphabet) :
    urlAlphabet.idxOf char < 64 ∧ valueChar (urlAlphabet.idxOf char) = char := by
  rw [urlAlphabet_eq] at member
  obtain ⟨value, listed, rfl⟩ := List.mem_map.1 member
  have small := List.mem_range.1 listed
  rw [idxOf_valueChar value small]
  exact ⟨small, rfl⟩

/-- A body spells a payload: its characters are of the URL alphabet, and the bits of their places
in it are those of the payload, filled up with zeros. -/
structure Spells (body : List Char) (payload : List UInt8) : Prop where
  alphabet : ∀ char ∈ body, char ∈ urlAlphabet
  places : Base64Url.Spell (body.map urlAlphabet.idxOf) payload

/-- A value carries a payload: it is the mark of the version and a body that spells the payload. -/
def Carries (value : String) (payload : List UInt8) : Prop :=
  ∃ body, value.toList = "v1.".toList ++ body ∧ Spells body payload

/-- What is wrong with a body that spells no payload. -/
inductive Defect (body : List Char) : Prop where
  /-- The padding sign of other forms has no place in this one. -/
  | padding (stands : '=' ∈ body)
  /-- A character that is not of the URL alphabet, such as the plus sign and the slash. -/
  | foreign {char : Char} (stands : char ∈ body) (outside : char ∉ urlAlphabet)
  /-- One character is left over. -/
  | surplus (leftOver : body.length % 4 = 1)
  /-- The last character holds a bit that belongs to no byte: it has four of them after one byte,
  and two after two. -/
  | unusedBit {last : Char} (ends : body.getLast? = some last)
      (set : body.length % 4 = 2 ∧ urlAlphabet.idxOf last % 16 ≠ 0 ∨
        body.length % 4 = 3 ∧ urlAlphabet.idxOf last % 4 ≠ 0)

variable {body : List Char} {value : String} {payload : List UInt8}

/-- Characters of the alphabet are those of their places. -/
theorem map_valueChar_idxOf (alphabet : ∀ char ∈ body, char ∈ urlAlphabet) :
    (body.map urlAlphabet.idxOf).map valueChar = body := by
  rw [List.map_map]
  calc body.map (valueChar ∘ urlAlphabet.idxOf)
      = body.map id :=
        List.map_congr_left fun char member => (valueChar_idxOf (alphabet char member)).2
    _ = body := List.map_id body

/-- The places of the characters of values are the values. -/
theorem map_idxOf_valueChar {values : List Nat} (small : ∀ value ∈ values, value < 64) :
    (values.map valueChar).map urlAlphabet.idxOf = values := by
  rw [List.map_map]
  calc values.map (urlAlphabet.idxOf ∘ valueChar)
      = values.map id := List.map_congr_left fun value member =>
        idxOf_valueChar value (small value member)
    _ = values := List.map_id values

/-- The characters of values are written as the symbols of the values. -/
theorem encode_map_valueChar {values : List Nat} (small : ∀ value ∈ values, value < 64) :
    Utf8.encode (values.map valueChar) = values.map Base64Url.symbol := by
  have each : ∀ byte ∈ values.map Base64Url.symbol,
      ∃ value < 64, byte = Base64Url.symbol value := by
    intro byte member
    obtain ⟨value, listed, rfl⟩ := List.mem_map.1 member
    exact ⟨value, small value listed, rfl⟩
  have written := encode_symbols each
  rw [List.map_map] at written
  exact written

/-- A body that is written as the symbols of values has their characters. -/
theorem eq_map_valueChar {values : List Nat} (small : ∀ value ∈ values, value < 64)
    (written : Utf8.encode body = values.map Base64Url.symbol) : body = values.map valueChar :=
  Utf8.encode_injective (written.trans (encode_map_valueChar small).symm)

/-- The characters of values are of the alphabet. -/
theorem mem_urlAlphabet_of_mem_map {values : List Nat} (small : ∀ value ∈ values, value < 64) :
    ∀ char ∈ values.map valueChar, char ∈ urlAlphabet := by
  intro char member
  obtain ⟨value, listed, rfl⟩ := List.mem_map.1 member
  exact symbol_mem_urlAlphabet value (small value listed)

/-- The places of characters of the alphabet are values of six bits. -/
theorem idxOf_lt (alphabet : ∀ char ∈ body, char ∈ urlAlphabet) :
    ∀ value ∈ body.map urlAlphabet.idxOf, value < 64 := by
  intro value member
  obtain ⟨char, listed, rfl⟩ := List.mem_map.1 member
  exact (valueChar_idxOf (alphabet char listed)).1

/-- A body spells a payload exactly when its bytes are the encoding of the payload. -/
theorem spells_iff : Spells body payload ↔ Utf8.encode body = Base64Url.encode payload := by
  obtain ⟨values, written, small, spelled⟩ := Base64Url.exists_spell_encode payload
  rw [written]
  constructor
  · intro spells
    have places := spells.places.eq spelled (idxOf_lt spells.alphabet) small
    rw [← encode_map_valueChar small, ← places, map_valueChar_idxOf spells.alphabet]
  · intro same
    obtain rfl := eq_map_valueChar small same
    exact ⟨mem_urlAlphabet_of_mem_map small, (map_idxOf_valueChar small).symm ▸ spelled⟩

/-- The bytes of a body are sound exactly when its characters are of the alphabet and their places
make up whole bytes. -/
theorem sound_iff :
    Base64Url.Sound (Utf8.encode body) ↔
      (∀ char ∈ body, char ∈ urlAlphabet) ∧ Base64Url.Whole (body.map urlAlphabet.idxOf) := by
  constructor
  · rintro ⟨values, written, small, whole⟩
    obtain rfl := eq_map_valueChar small written
    exact ⟨mem_urlAlphabet_of_mem_map small, (map_idxOf_valueChar small).symm ▸ whole⟩
  · rintro ⟨alphabet, whole⟩
    refine ⟨body.map urlAlphabet.idxOf, ?_, idxOf_lt alphabet, whole⟩
    rw [← encode_map_valueChar (idxOf_lt alphabet), map_valueChar_idxOf alphabet]

/-- A body has a defect exactly when its bytes are not sound. -/
theorem defect_iff : Defect body ↔ ¬ Base64Url.Sound (Utf8.encode body) := by
  rw [sound_iff, Base64Url.whole_iff, List.length_map, List.getLast?_map]
  constructor
  · rintro defect ⟨alphabet, count, unused⟩
    cases defect with
    | padding stands => exact absurd (alphabet _ stands) (by decide)
    | foreign stands outside => exact outside (alphabet _ stands)
    | surplus leftOver => exact count leftOver
    | unusedBit ends set =>
        rename_i last
        obtain ⟨afterOne, afterTwo⟩ := unused (urlAlphabet.idxOf last) (by rw [ends]; rfl)
        rcases set with ⟨count, set⟩ | ⟨count, set⟩
        · exact set (afterOne count)
        · exact set (afterTwo count)
  · intro unsound
    by_contra sane
    refine unsound ⟨fun char member => ?_, fun leftOver => sane (.surplus leftOver), ?_⟩
    · by_contra outside
      exact sane (.foreign member outside)
    · intro place found
      obtain ⟨last, ends, rfl⟩ := Option.map_eq_some_iff.1 found
      constructor
      · intro count
        by_contra set
        exact sane (.unusedBit ends (.inl ⟨count, set⟩))
      · intro count
        by_contra set
        exact sane (.unusedBit ends (.inr ⟨count, set⟩))

/-- A value with the mark of the version is as good as its body. -/
theorem unwrap_of_marked (marked : value.toList = "v1.".toList ++ body) :
    unwrap value = (Base64Url.decode (Utf8.encode body)).mapError .base64 := by
  have chars : value.toList = 'v' :: '1' :: '.' :: body := marked
  simp only [unwrap, chars]

/-- A value without the mark is refused for its version. -/
theorem unwrap_of_unmarked (unmarked : ¬ "v1.".toList <+: value.toList) :
    unwrap value = .error .version := by
  unfold unwrap
  split
  · rename_i body chars
    exact absurd ⟨body, chars.symm⟩ unmarked
  · rfl

/-- A payload is taken out of a value exactly when the value carries it. -/
theorem unwrap_eq_ok_iff : unwrap value = .ok payload ↔ Carries value payload := by
  by_cases marked : "v1.".toList <+: value.toList
  · obtain ⟨body, chars⟩ := marked
    have only : Carries value payload ↔ Spells body payload := by
      constructor
      · rintro ⟨other, otherChars, spells⟩
        rw [List.append_cancel_left (chars.trans otherChars)]
        exact spells
      · exact fun spells => ⟨body, chars.symm, spells⟩
    rw [only, spells_iff, ← Base64Url.decode_eq_ok_iff, unwrap_of_marked chars.symm]
    cases Base64Url.decode (Utf8.encode body) <;> simp [Except.mapError]
  · rw [unwrap_of_unmarked marked]
    refine ⟨nofun, ?_⟩
    rintro ⟨body, chars, _⟩
    exact absurd ⟨body, chars.symm⟩ marked

/-- A value carries a payload exactly when it is what the payload is wrapped in. -/
theorem carries_iff : Carries value payload ↔ value = wrap payload := by
  have wrapped : Carries (wrap payload) payload := unwrap_eq_ok_iff.1 (unwrap_wrap payload)
  constructor
  · rintro ⟨body, chars, spells⟩
    obtain ⟨other, otherChars, otherSpells⟩ := wrapped
    have bodies : body = other :=
      Utf8.encode_injective ((spells_iff.1 spells).trans (spells_iff.1 otherSpells).symm)
    exact String.toList_injective (by rw [chars, otherChars, bodies])
  · rintro rfl
    exact wrapped

/-- A value is refused for its body exactly when the body has a defect. -/
theorem exists_unwrap_eq_base64_iff :
    (∃ fault, unwrap value = .error (.base64 fault)) ↔
      ∃ body, value.toList = "v1.".toList ++ body ∧ Defect body := by
  by_cases marked : "v1.".toList <+: value.toList
  · obtain ⟨body, chars⟩ := marked
    have only : (∃ other, value.toList = "v1.".toList ++ other ∧ Defect other) ↔ Defect body := by
      constructor
      · rintro ⟨other, otherChars, defect⟩
        rw [List.append_cancel_left (chars.trans otherChars)]
        exact defect
      · exact fun defect => ⟨body, chars.symm, defect⟩
    rw [only, defect_iff, ← Base64Url.exists_decode_eq_error_iff, unwrap_of_marked chars.symm]
    cases Base64Url.decode (Utf8.encode body) <;> simp [Except.mapError]
  · rw [unwrap_of_unmarked marked]
    constructor
    · rintro ⟨fault, refused⟩
      cases refused
    · rintro ⟨body, chars, _⟩
      exact absurd ⟨body, chars.symm⟩ marked

/-- A value is refused for its version exactly when it does not begin with the mark. -/
theorem unwrap_eq_version_iff :
    unwrap value = .error .version ↔ ¬ "v1.".toList <+: value.toList := by
  refine ⟨?_, unwrap_of_unmarked⟩
  rintro refused ⟨body, chars⟩
  rw [unwrap_of_marked chars.symm] at refused
  cases decoded : Base64Url.decode (Utf8.encode body) <;>
    simp [decoded, Except.mapError] at refused

/-- What a value is good for, whatever its payload is read as: it carries one payload and stands
for it alone, or it is refused before any payload is read. -/
structure StandsForItsPayload (Content : Type) (value : String) : Prop where
  /-- Something is read exactly when the value carries a payload that means it. -/
  ok_iff : ∀ (read : List UInt8 → Option Content) (content : Content),
    decodeWith read value = .ok content ↔
      ∃ payload, Carries value payload ∧ read payload = some content
  /-- A payload is refused exactly when the value carries it and it means nothing. -/
  payload_iff : ∀ (read : List UInt8 → Option Content) (payload : List UInt8),
    decodeWith read value = .error (.payload payload) ↔
      Carries value payload ∧ read payload = none
  /-- A defective body is refused, and for the same fault whatever payloads are read as. -/
  base64_iff : (∃ body, value.toList = "v1.".toList ++ body ∧ Defect body) ↔
    ∃ fault, ∀ read : List UInt8 → Option Content,
      decodeWith read value = .error (.base64 fault)
  /-- So is a value that does not begin with the mark of the version. -/
  version_iff : ¬ "v1.".toList <+: value.toList ↔
    ∀ read : List UInt8 → Option Content, decodeWith read value = .error .version
  /-- No other value carries the same payload. -/
  alone : ∀ payload other, Carries value payload → Carries other payload → other = value
  /-- The value of a payload carries it. -/
  carries_iff : ∀ payload, Carries value payload ↔ value = wrap payload

/-- Taking a payload out never refuses what the payload says. -/
theorem unwrap_ne_payload (payload : List UInt8) : unwrap value ≠ .error (.payload payload) := by
  unfold unwrap
  split
  · rename_i body _
    cases Base64Url.decode (Utf8.encode body) <;> simp [Except.mapError]
  · nofun

/-- Something is read exactly when it is the meaning of a payload that is taken out. -/
theorem decodeWith_eq_ok_iff {Content : Type} {read : List UInt8 → Option Content}
    {content : Content} :
    decodeWith read value = .ok content ↔
      ∃ payload, unwrap value = .ok payload ∧ read payload = some content := by
  unfold decodeWith
  cases unwrap value with
  | error fault => simp
  | ok payload => cases meaning : read payload <;> simp [meaning]

/-- A payload is refused exactly when it is taken out and means nothing. -/
theorem decodeWith_eq_payload_iff {Content : Type} {read : List UInt8 → Option Content}
    {payload : List UInt8} :
    decodeWith read value = .error (.payload payload) ↔
      unwrap value = .ok payload ∧ read payload = none := by
  cases opened : unwrap value with
  | error fault =>
      have early : fault ≠ .payload payload := by
        rintro rfl
        exact unwrap_ne_payload payload opened
      simp [decodeWith, opened, early]
  | ok other =>
      cases meaning : read other with
      | some content =>
          simp only [decodeWith, opened, meaning, reduceCtorEq, Except.ok.injEq, false_iff]
          rintro ⟨rfl, meaningless⟩
          cases meaning.symm.trans meaningless
      | none =>
          simp only [decodeWith, opened, meaning, Except.error.injEq, Fault.payload.injEq,
            Except.ok.injEq]
          refine ⟨?_, And.left⟩
          rintro rfl
          exact ⟨rfl, meaning⟩

/-- Any other fault is one of taking the payload out. -/
theorem decodeWith_eq_error_iff {Content : Type} {read : List UInt8 → Option Content}
    {fault : Fault} (early : ∀ payload, fault ≠ .payload payload) :
    decodeWith read value = .error fault ↔ unwrap value = .error fault := by
  cases opened : unwrap value with
  | error other => simp [decodeWith, opened]
  | ok payload =>
      cases meaning : read payload <;> simp [decodeWith, opened, meaning, (early payload).symm]

/-- Every value stands for its payload. -/
theorem standsForItsPayload (Content : Type) (value : String) :
    StandsForItsPayload Content value where
  ok_iff read content := by
    simp only [decodeWith_eq_ok_iff, unwrap_eq_ok_iff]
  payload_iff read payload := by
    simp only [decodeWith_eq_payload_iff, unwrap_eq_ok_iff]
  base64_iff := by
    rw [← exists_unwrap_eq_base64_iff]
    refine exists_congr fun fault => ?_
    have early : ∀ payload, Fault.base64 fault ≠ .payload payload := nofun
    exact ⟨fun refused read => (decodeWith_eq_error_iff early).2 refused,
      fun refused => (decodeWith_eq_error_iff early).1 (refused fun _ => none)⟩
  version_iff := by
    rw [← unwrap_eq_version_iff]
    have early : ∀ payload, Fault.version ≠ .payload payload := nofun
    exact ⟨fun refused read => (decodeWith_eq_error_iff early).2 refused,
      fun refused => (decodeWith_eq_error_iff early).1 (refused fun _ => none)⟩
  alone payload other carried otherCarried := by
    rw [carries_iff] at carried otherCarried
    exact otherCarried.trans carried.symm
  carries_iff payload := HeaderValue.carries_iff

end NodeGate.HeaderValue
