import NodeGate.Identity
import NodeGate.Proofs.Json.SpelledText

/-!
# Written trees are read back

The text of a tree is one of the texts that say the tree, provided that its strings and keys hold
whole spellings: then each closing quotation mark is found where it was written. The spellings
that this library writes are whole. `read_write` puts this together with the reading of texts.
-/

namespace NodeGate.Json

open NodeGate.Text

/-- The spelling of a character stands for it. -/
theorem spelledChar_spellChar (char : Char) : SpelledChar (spellChar char) char := by
  have named {code : Nat} (same : char.toNat = code) : char = Char.ofNat code := by
    rw [← same, Char.ofNat_toNat]
  unfold spellChar
  split
  · rename_i same
    exact same ▸ .letter (by decide)
  split
  · rename_i same
    exact same ▸ .letter (by decide)
  iterate 5
    split
    · rename_i same
      exact named same ▸ .letter (by decide)
  split
  · rename_i control
    have digit : ∀ value < 16, lowerDigits[value]? = some (hexDigit value) := by decide
    have zero : HexDigit 0x30 0 := .inl rfl
    have code := FourDigits.digits zero zero (.inl (digit (char.toNat / 16) (by omega)))
      (.inl (digit (char.toNat % 16) (by omega)))
    have same : 0 * 0x1000 + 0 * 0x100 + char.toNat / 16 * 0x10 + char.toNat % 16 = char.toNat := by
      omega
    rw [same] at code
    exact .code code
  · rename_i noQuote noBackslash _ _ _ _ _ printable
    exact .plain (by omega) noQuote noBackslash

/-- The spelling that is written for a text stands for it. -/
theorem spelled_spell (text : List Char) : Spelled (spell text) text := by
  induction text with
  | nil => exact .nil
  | cons char rest inductionHypothesis =>
      exact .cons (spelledChar_spellChar char) inductionHypothesis

/-- The spellings that are written are whole. -/
theorem wholeSpelling_spellString (text : String) : WholeSpelling (spellString text) :=
  (spelled_spell text.toList).legal.takenPiece.whole

/-- A tree without numbers whose strings and keys hold whole spellings. -/
inductive Legible : Tree → Prop where
  | null : Legible .null
  | bool (value : Bool) : Legible (.bool value)
  | string {spelling : List UInt8} (whole : WholeSpelling spelling) : Legible (.string spelling)
  | array {items : List Tree} (each : ∀ item ∈ items, Legible item) : Legible (.array items)
  | object {members : List (List UInt8 × Tree)}
      (keys : ∀ member ∈ members, WholeSpelling member.1)
      (values : ∀ member ∈ members, Legible member.2) : Legible (.object members)

/-- A known letter of an escape is listed. -/
theorem mem_escapes_of_isSome {letter : UInt8} (known : (simpleEscape? letter).isSome = true) :
    letter ∈ escapes.map Prod.fst := by
  have listed : ∀ code < 256, (simpleEscape? (UInt8.ofNat code)).isSome = true →
      UInt8.ofNat code ∈ escapes.map Prod.fst := by
    decide +kernel
  have found := listed letter.toNat letter.toNat_lt
  rw [UInt8.ofNat_toNat] at found
  exact found known

/-- What is taken as the spelling of a string is a legal one. -/
theorem legalSpelling_of_takeString {text spelling left : List UInt8}
    (taken : takeString text = some (spelling, left)) : LegalSpelling spelling := by
  fun_induction takeString text generalizing spelling with
  | case1 => cases taken
  | case2 rest =>
      cases taken
      exact .nil
  | case3 first second third fourth rest hex inductionHypothesis =>
      simp only [Option.map_eq_some_iff, Prod.mk.injEq, Prod.exists] at taken
      obtain ⟨inner, after, found, rfl, rfl⟩ := taken
      simp only [Bool.and_eq_true] at hex
      exact .unicode hex.1.1.1 hex.1.1.2 hex.1.2 hex.2 (inductionHypothesis found)
  | case4 => cases taken
  | case5 letter rest _ known inductionHypothesis =>
      simp only [Option.map_eq_some_iff, Prod.mk.injEq, Prod.exists] at taken
      obtain ⟨inner, after, found, rfl, rfl⟩ := taken
      exact .escape (mem_escapes_of_isSome known) (inductionHypothesis found)
  | case6 => cases taken
  | case7 => cases taken
  | case8 byte rest noQuote _ _ visible inductionHypothesis =>
      simp only [Option.map_eq_some_iff, Prod.mk.injEq, Prod.exists] at taken
      obtain ⟨inner, after, found, rfl, rfl⟩ := taken
      rw [not_or, Nat.not_lt] at visible
      exact .byte visible.1 noQuote visible.2 (inductionHypothesis found)

/-- A whole spelling is legal. -/
theorem WholeSpelling.legal {spelling : List UInt8} (whole : WholeSpelling spelling) :
    LegalSpelling spelling :=
  legalSpelling_of_takeString (whole [])

/-- The texts of items are written one by one. -/
theorem writeItems_eq_map (items : List Tree) : writeItems items = items.map Tree.write := by
  induction items with
  | nil => rfl
  | cons item more inductionHypothesis =>
      rw [writeItems, inductionHypothesis, List.map_cons]

/-- A member as it is written, with no blanks. -/
def writtenMember (member : List UInt8 × Tree) : MemberText where
  before := []
  key := member.1
  between := []
  text := member.2.write
  value := member.2

/-- The texts of members are written one by one. -/
theorem writeMembers_eq_map (members : List (List UInt8 × Tree)) :
    writeMembers members = (members.map writtenMember).map MemberText.write := by
  induction members with
  | nil => rfl
  | cons member more inductionHypothesis =>
      obtain ⟨key, value⟩ := member
      rw [writeMembers, inductionHypothesis]
      simp [MemberText.write, writtenMember]

/-- The text of a legible tree says the tree. -/
theorem Legible.denotes {tree : Tree} (legible : Legible tree) : Denotes tree.write tree := by
  induction legible with
  | null => exact .null
  | bool value =>
      cases value with
      | false => exact .false
      | true => exact .true
  | string whole => exact .string whole.legal
  | array each inductionHypothesis =>
      rename_i items
      have denotes : ∀ item ∈ items.map fun item => (item.write, item), Denotes item.1 item.2 := by
        intro written member
        obtain ⟨item, listed, rfl⟩ := List.mem_map.1 member
        exact inductionHypothesis item listed
      cases items with
      | nil => exact .emptyArray nofun
      | cons item more =>
          have whole := Denotes.array (List.cons_ne_nil _ _) denotes
          rw [Tree.write, writeItems_eq_map]
          simpa [Function.comp_def] using whole
  | object keys values inductionHypothesis =>
      rename_i members
      have legal : ∀ member ∈ members.map writtenMember, member.KeyLegal := by
        intro written writtenOf
        obtain ⟨member, listed, rfl⟩ := List.mem_map.1 writtenOf
        exact ⟨nofun, (keys member listed).legal, nofun⟩
      have denotes : ∀ member ∈ members.map writtenMember, Denotes member.text member.value := by
        intro written writtenOf
        obtain ⟨member, listed, rfl⟩ := List.mem_map.1 writtenOf
        exact inductionHypothesis member listed
      cases members with
      | nil => exact .emptyObject nofun
      | cons member more =>
          have whole := Denotes.object (List.cons_ne_nil _ _) legal denotes
          rw [Tree.write, writeMembers_eq_map]
          simpa [Function.comp_def, MemberText.toMember, writtenMember] using whole

/-- The text of a legible tree is read as the tree. -/
theorem read_write {tree : Tree} (legible : Legible tree) : read tree.write = some tree :=
  read_of_denotes legible.denotes

end NodeGate.Json
