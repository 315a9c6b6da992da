import NodeGate.Proofs.HeaderValue
import NodeGate.Proofs.Identity.Description

/-!
# Every spelling of an identity

A node need not write an identity as this library does. Whatever JSON object it writes, with
members in any order, blanks, escapes and members of its own, the value is read as the identity
that the object describes, and where the object is ambiguous or something follows it, as none
(`decodeIdentity_object`).
-/

namespace NodeGate.HeaderValue

open NodeGate.Text NodeGate.Json NodeGate.Identity

/-- What is read from the value of an object with given entries. -/
structure ReadsObject (text : List UInt8) (entries : List (String × Tree)) : Prop where
  /-- The identity that the entries describe. -/
  described : ∀ identity, Describes entries identity → decodeIdentity (wrap text) = .ok identity
  /-- Nothing without a name. -/
  nameless : (∀ entry ∈ entries, entry.1 ≠ "name") →
    decodeIdentity (wrap text) = .error (.payload text)
  /-- Nothing where one of the known keys stands twice. -/
  repeated : ∀ key ∈ knownKeys, 1 < (entries.map Prod.fst).count key →
    decodeIdentity (wrap text) = .error (.payload text)
  /-- Nothing where anything but blanks follows the object. -/
  followed : ∀ extra, (∃ byte ∈ extra, isBlankByte byte = false) →
    decodeIdentity (wrap (text ++ extra)) = .error (.payload (text ++ extra))

/-- What means nothing is refused once it is taken out of its wrapping. -/
theorem decodeWith_wrap_of_none {Content : Type} {read : List UInt8 → Option Content}
    {payload : List UInt8} (meaningless : read payload = none) :
    decodeWith read (wrap payload) = .error (.payload payload) := by
  rw [decodeWith, unwrap_wrap]
  simp only [meaningless]

/-- The value of an object is read as what its entries describe, if they describe anything. -/
theorem decodeIdentity_object {text : List UInt8} {members : List (List UInt8 × Tree)}
    {entries : List (String × Tree)} (denotes : Denotes text (.object members))
    (keyed : List.Forall₂ Keyed members entries) : ReadsObject text entries := by
  have read : readIdentity text = ofTree? (.object members) := by
    rw [readIdentity, read_of_denotes denotes, Option.bind_some]
  constructor
  case described =>
    intro identity describes
    exact decodeWith_wrap (read.trans (ofTree?_of_describes keyed describes))
  case nameless =>
    intro nameless
    exact decodeWith_wrap_of_none (read.trans (ofTree?_of_nameless keyed nameless))
  case repeated =>
    intro key known repeated
    exact decodeWith_wrap_of_none (read.trans (ofTree?_of_repeated keyed known repeated))
  case followed =>
    intro extra visible
    apply decodeWith_wrap_of_none
    rw [readIdentity, read_append_eq_none denotes id visible]
    rfl

/-- Two members: a list under a key of the writer's own, and a name under a key with an escape. -/
def escapedMembers : List MemberText :=
  [⟨[], spellString "x", [], [0x5B, 0x31, 0x2C, 0x20, 0x7B, 0x7D, 0x5D],
      .array [.number [0x31], .object []]⟩,
    ⟨[], [0x6E, 0x5C, 0x75, 0x30, 0x30, 0x36, 0x31, 0x6D, 0x65], [], writeString (spellString "a"),
      textTree "a"⟩]

/-- The key with the escape stands for that of the name. -/
theorem spelled_escapedKey :
    Spelled [0x6E, 0x5C, 0x75, 0x30, 0x30, 0x36, 0x31, 0x6D, 0x65] "name".toList := by
  have digits : FourDigits [0x30, 0x30, 0x36, 0x31] 'a'.toNat :=
    @FourDigits.digits 0x30 0x30 0x36 0x31 0 0 6 1 (.inl rfl) (.inl rfl) (.inl rfl) (.inl rfl)
  exact @Spelled.cons [0x6E] _ 'n' _ (spelledChar_spellChar 'n')
    (.cons (.code digits) (spelled_spell ['m', 'e']))

/-- The members are those of a JSON object. -/
theorem denotes_escapedMembers :
    Denotes (0x7B :: writeList (escapedMembers.map MemberText.write) ++ [0x7D])
      (.object (escapedMembers.map MemberText.toMember)) := by
  have digit : Digits [0x31] := ⟨by decide, List.forall_mem_singleton.2 rfl⟩
  have number : Denotes [0x31] (.number [0x31]) :=
    .number (@NumberText.parts [] [0x31] [] [] (by decide) (.digits digit (by decide)) .none .none)
  have space : Blanks [0x20] := List.forall_mem_singleton.2 rfl
  have nothing : Denotes [0x20, 0x7B, 0x7D] (.object []) :=
    @Denotes.padded [0x20] _ [] _ space (@Denotes.emptyObject [] nofun) nofun
  have list : Denotes [0x5B, 0x31, 0x2C, 0x20, 0x7B, 0x7D, 0x5D]
      (.array [.number [0x31], .object []]) :=
    @Denotes.array [([0x31], .number [0x31]), ([0x20, 0x7B, 0x7D], .object [])]
      (by simp) (by simp [number, nothing])
  have foreign := (spelled_spell "x".toList).legal
  have name := (spelled_spell "a".toList).legal
  apply Denotes.object (List.cons_ne_nil _ _)
  · intro member listed
    simp only [List.mem_cons, List.not_mem_nil, or_false] at listed
    rcases listed with rfl | rfl
    · exact ⟨nofun, foreign, nofun⟩
    · exact ⟨nofun, spelled_escapedKey.legal, nofun⟩
  · intro member listed
    simp only [List.mem_cons, List.not_mem_nil, or_false] at listed
    rcases listed with rfl | rfl
    · exact list
    · exact .string name

/-- The name is read from under the escaped key, past the list. -/
theorem decodeIdentity_object_escaped :
    decodeIdentity (wrap (Utf8.ofString
      "\x7b\"x\":[1, \x7b\x7d],\"n\\u0061me\":\"a\"\x7d")) = .ok { name := "a" } := by
  have keyed : List.Forall₂ Keyed (escapedMembers.map MemberText.toMember)
      [("x", .array [.number [0x31], .object []]), ("name", textTree "a")] :=
    .cons ⟨spelled_spell "x".toList, rfl⟩ (.cons ⟨spelled_escapedKey, rfl⟩ .nil)
  have describes : Describes [("x", .array [.number [0x31], .object []]), ("name", textTree "a")]
      { name := "a" } := by
    have last : [("x", .array [.number [0x31], .object []]), ("name", textTree "a")] =
        [("x", .array [.number [0x31], .object []])] ++ ("name", textTree "a") :: [] :=
      rfl
    refine ⟨.once last ?_ (.string (spelled_spell "a".toList)), .leftOut ?_ rfl, .leftOut ?_ rfl⟩
    all_goals decide
  have text : Utf8.ofString "\x7b\"x\":[1, \x7b\x7d],\"n\\u0061me\":\"a\"\x7d" =
      0x7B :: writeList (escapedMembers.map MemberText.write) ++ [0x7D] := by
    decide +kernel
  rw [text]
  exact (decodeIdentity_object denotes_escapedMembers keyed).described _ describes

end NodeGate.HeaderValue
