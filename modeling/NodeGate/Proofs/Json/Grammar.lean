import NodeGate.Proofs.Json.NumberText

/-!
# The grammar of JSON texts

`Denotes` is the grammar: which texts are JSON values, and which tree each of them is. Blanks may
stand around every value and every key, a string may hold any escape, and a number has any size.
`read_of_denotes` shows that the reader takes every text of the grammar for its tree, and
`read_append_eq_none` that after an object or an array nothing but blanks may follow.
-/

namespace NodeGate.Json

/-- Nothing but blanks. -/
def Blanks (text : List UInt8) : Prop :=
  ∀ byte ∈ text, isBlankByte byte = true

/-- Blanks are cut into nothing. -/
theorem cutInto_blanks {text : List UInt8} (blank : Blanks text) : CutInto text [] := by
  induction text with
  | nil =>
      intro rest
      simp
  | cons byte more inductionHypothesis =>
      have later := inductionHypothesis fun other member =>
        blank other (List.mem_cons_of_mem _ member)
      intro rest
      rw [List.cons_append, tokens, blank byte List.mem_cons_self]
      exact later rest

/-- A text with a byte that is no blank has a token, or a piece that is none. -/
theorem tokens_ne_nil {text : List UInt8} (visible : ∃ byte ∈ text, isBlankByte byte = false) :
    tokens text ≠ some [] := by
  induction text with
  | nil =>
      obtain ⟨byte, member, _⟩ := visible
      cases member
  | cons byte more inductionHypothesis =>
      rw [tokens]
      cases blank : isBlankByte byte with
      | true =>
          obtain ⟨other, member, visible⟩ := visible
          rcases List.mem_cons.1 member with rfl | member
          · rw [blank] at visible
            cases visible
          · exact inductionHypothesis ⟨other, member, visible⟩
      | false =>
          simp only [Bool.false_eq_true, if_false]
          split
          · intro nothing
            cases nothing
          · simp

/-- What a letter after a backslash stands for. -/
def escapes : List (UInt8 × Char) :=
  [(0x22, '"'), (0x5C, '\\'), (0x2F, '/'), (0x62, '\x08'), (0x66, '\x0C'), (0x6E, '\n'),
    (0x72, '\r'), (0x74, '\t')]

/-- What may stand between the quotation marks of a string: bytes as they are, but for quotation
marks, backslashes and controls, and escapes, whether or not they make up a text. -/
inductive LegalSpelling : List UInt8 → Prop where
  | nil : LegalSpelling []
  | byte {byte : UInt8} {rest : List UInt8} (printable : 0x20 ≤ byte.toNat)
      (noQuote : byte ≠ 0x22) (noBackslash : byte ≠ 0x5C) (later : LegalSpelling rest) :
      LegalSpelling (byte :: rest)
  | escape {letter : UInt8} {rest : List UInt8} (listed : letter ∈ escapes.map Prod.fst)
      (later : LegalSpelling rest) : LegalSpelling (0x5C :: letter :: rest)
  | unicode {first second third fourth : UInt8} {rest : List UInt8} (firstHex : isHex first = true)
      (secondHex : isHex second = true) (thirdHex : isHex third = true)
      (fourthHex : isHex fourth = true) (later : LegalSpelling rest) :
      LegalSpelling (0x5C :: 0x75 :: first :: second :: third :: fourth :: rest)

/-- The letters of escapes are those that are known. -/
theorem simpleEscape?_of_mem_escapes :
    ∀ escape ∈ escapes, simpleEscape? escape.1 = some escape.2 := by
  decide

/-- A legal spelling is taken as it stands. -/
theorem LegalSpelling.takenPiece {spelling : List UInt8} (legal : LegalSpelling spelling) :
    TakenPiece spelling := by
  induction legal with
  | nil => exact takenPiece_nil
  | byte printable noQuote noBackslash later inductionHypothesis =>
      exact (takenPiece_byte printable noQuote noBackslash).append inductionHypothesis
  | escape listed later inductionHypothesis =>
      obtain ⟨escape, member, rfl⟩ := List.mem_map.1 listed
      have known : (simpleEscape? escape.1).isSome = true := by
        rw [simpleEscape?_of_mem_escapes escape member]
        rfl
      exact (takenPiece_escape known).append inductionHypothesis
  | unicode firstHex secondHex thirdHex fourthHex later inductionHypothesis =>
      exact (takenPiece_unicode firstHex secondHex thirdHex fourthHex).append inductionHypothesis

/-- A member as it stands in the text of an object: a key with blanks around it, a colon, and the
text of a value. -/
structure MemberText where
  before : List UInt8
  key : List UInt8
  between : List UInt8
  text : List UInt8
  value : Tree

/-- The text of a member. -/
def MemberText.write (member : MemberText) : List UInt8 :=
  member.before ++ writeString member.key ++ member.between ++ 0x3A :: member.text

/-- The member of a tree that the text is. -/
def MemberText.toMember (member : MemberText) : List UInt8 × Tree :=
  (member.key, member.value)

/-- The key of a member is a legal spelling with nothing but blanks around it. -/
structure MemberText.KeyLegal (member : MemberText) : Prop where
  before : Blanks member.before
  key : LegalSpelling member.key
  between : Blanks member.between

/-- A text is a JSON value, and the value is the tree. -/
inductive Denotes : List UInt8 → Tree → Prop where
  | null : Denotes [0x6E, 0x75, 0x6C, 0x6C] .null
  | true : Denotes [0x74, 0x72, 0x75, 0x65] (.bool Bool.true)
  | false : Denotes [0x66, 0x61, 0x6C, 0x73, 0x65] (.bool Bool.false)
  | number {number : List UInt8} (text : NumberText number) : Denotes number (.number number)
  | string {spelling : List UInt8} (legal : LegalSpelling spelling) :
      Denotes (writeString spelling) (.string spelling)
  | emptyArray {blanks : List UInt8} (blank : Blanks blanks) :
      Denotes (0x5B :: blanks ++ [0x5D]) (.array [])
  | array {items : List (List UInt8 × Tree)} (some : items ≠ [])
      (each : ∀ item ∈ items, Denotes item.1 item.2) :
      Denotes (0x5B :: writeList (items.map Prod.fst) ++ [0x5D]) (.array (items.map Prod.snd))
  | emptyObject {blanks : List UInt8} (blank : Blanks blanks) :
      Denotes (0x7B :: blanks ++ [0x7D]) (.object [])
  | object {members : List MemberText} (some : members ≠ [])
      (keys : ∀ member ∈ members, member.KeyLegal)
      (values : ∀ member ∈ members, Denotes member.text member.value) :
      Denotes (0x7B :: writeList (members.map MemberText.write) ++ [0x7D])
        (.object (members.map MemberText.toMember))
  | padded {before text after : List UInt8} {tree : Tree} (beforeBlank : Blanks before)
      (denotes : Denotes text tree) (afterBlank : Blanks after) :
      Denotes (before ++ text ++ after) tree

/-- A text that is cut into given tokens wherever what follows does not go on with a number. -/
def CutBefore (text : List UInt8) (cut : List Token) : Prop :=
  ∀ rest, EndsNumber rest → tokens (text ++ rest) = (tokens rest).map (cut ++ ·)

/-- A byte that has no place in a number ends one. -/
theorem endsNumber_cons {byte : UInt8} (noDigit : isDigitByte byte = false)
    (others : byte ∉ [0x2E, 0x45, 0x65]) (rest : List UInt8) : EndsNumber (byte :: rest) where
  noDigit _ first := by
    cases first
    exact noDigit
  noPoint first := by
    cases first
    exact absurd others (by decide)
  noLetter letter listed first := by
    cases first
    exact others (List.mem_cons_of_mem _ listed)

/-- Nothing ends a number. -/
theorem endsNumber_nil : EndsNumber [] where
  noDigit := nofun
  noPoint := nofun
  noLetter := nofun

/-- Blanks end a number, unless there are none. -/
theorem Blanks.endsNumber {blanks rest : List UInt8} (blank : Blanks blanks)
    (ends : EndsNumber rest) : EndsNumber (blanks ++ rest) := by
  cases blanks with
  | nil => exact ends
  | cons byte more =>
      have isBlank := blank byte List.mem_cons_self
      simp only [isBlankByte, Bool.or_eq_true, decide_eq_true_eq] at isBlank
      rcases isBlank with ((rfl | rfl) | rfl) | rfl <;>
        exact endsNumber_cons (by decide) (by decide) _

/-- A text that may end in a number is followed by one that ends the number. -/
theorem CutBefore.append {first second : List UInt8} {firstCut secondCut : List Token}
    (firstBefore : CutBefore first firstCut) (ends : ∀ rest, EndsNumber (second ++ rest))
    (secondInto : CutInto second secondCut) :
    CutInto (first ++ second) (firstCut ++ secondCut) := by
  intro rest
  rw [List.append_assoc, firstBefore _ (ends rest), secondInto, Option.map_map]
  simp [Function.comp_def]

/-- What is cut whatever follows may come before what may end in a number. -/
theorem CutInto.appendBefore {first second : List UInt8} {firstCut secondCut : List Token}
    (firstInto : CutInto first firstCut) (secondBefore : CutBefore second secondCut) :
    CutBefore (first ++ second) (firstCut ++ secondCut) := by
  intro rest ends
  rw [List.append_assoc, firstInto, secondBefore rest ends, Option.map_map]
  simp [Function.comp_def]

/-- A mark that closes an array or an object. -/
structure Closes (mark : UInt8) (token : Token) : Prop where
  cut : CutInto [mark] [token]
  ends : ∀ rest, EndsNumber (mark :: rest)

/-- The bracket closes an array. -/
theorem closes_array : Closes 0x5D .closeArray :=
  ⟨cutInto_mark (by decide) fun _ => rfl, endsNumber_cons (by decide) (by decide)⟩

/-- The brace closes an object. -/
theorem closes_object : Closes 0x7D .closeObject :=
  ⟨cutInto_mark (by decide) fun _ => rfl, endsNumber_cons (by decide) (by decide)⟩

/-- Pieces with commas between them and a closing mark after them are cut into the tokens of
each. -/
theorem cutInto_writeList {Piece : Type} {write : Piece → List UInt8} {cut : Piece → List Token}
    {mark : UInt8} {token : Token} (closes : Closes mark token) {piece : Piece}
    {pieces : List Piece} (each : ∀ other ∈ piece :: pieces, CutBefore (write other) (cut other)) :
    CutInto (writeList ((piece :: pieces).map write) ++ [mark])
      (cut piece ++ ((pieces.flatMap fun other => .comma :: cut other) ++ [token])) := by
  induction pieces generalizing piece with
  | nil => exact (each piece List.mem_cons_self).append closes.ends closes.cut
  | cons next more inductionHypothesis =>
      have later := inductionHypothesis fun other member =>
        each other (List.mem_cons_of_mem _ member)
      have joined := (each piece List.mem_cons_self).append
        (fun _ => @endsNumber_cons 0x2C (by decide) (by decide) _) (cutInto_comma.append later)
      simpa [writeList] using joined

/-- The tokens of later items are those of each item after a comma. -/
theorem itemTokens_eq (items : List (List UInt8 × Tree)) :
    itemTokens (items.map Prod.snd) =
      (items.flatMap fun item => .comma :: item.2.tokens) ++ [.closeArray] := by
  induction items with
  | nil => rfl
  | cons item more inductionHypothesis => simp [itemTokens, inductionHypothesis]

/-- The tokens of a member. -/
def memberCut (member : MemberText) : List Token :=
  .string member.key :: .colon :: member.value.tokens

/-- The text of a member is cut into its key, a colon and its value. -/
theorem MemberText.KeyLegal.cutBefore {member : MemberText} (keyLegal : member.KeyLegal)
    (value : CutBefore member.text member.value.tokens) :
    CutBefore member.write (memberCut member) := by
  have key := cutInto_writeString keyLegal.key.takenPiece.whole
  have upToColon :=
    (((cutInto_blanks keyLegal.before).append key).append (cutInto_blanks keyLegal.between)).append
      cutInto_colon
  have joined := upToColon.appendBefore value
  simpa [MemberText.write, memberCut] using joined

/-- The tokens of later members are those of each member after a comma. -/
theorem memberTokens_eq (members : List MemberText) :
    memberTokens (members.map MemberText.toMember) =
      (members.flatMap fun member => .comma :: memberCut member) ++ [.closeObject] := by
  induction members with
  | nil => rfl
  | cons member more inductionHypothesis =>
      simp [MemberText.toMember, memberTokens, memberCut, inductionHypothesis]

/-- Whether a tree is a number. -/
def Tree.IsNumber : Tree → Prop
  | .number _ => True
  | _ => False

/-- The text of a value is cut into the tokens of its tree. What follows a number must not go on
with it. -/
theorem Denotes.tokens_append {text : List UInt8} {tree : Tree} (denotes : Denotes text tree) :
    ∀ rest, (tree.IsNumber → EndsNumber rest) →
      tokens (text ++ rest) = (tokens rest).map (tree.tokens ++ ·) := by
  have array : CutInto [0x5B] [.openArray] := cutInto_mark (by decide) fun _ => rfl
  have object : CutInto [0x7B] [.openObject] := cutInto_mark (by decide) fun _ => rfl
  -- By the derivation. What follows has to stay arbitrary, since inside an array or an object it
  -- is the rest of that, and only where the value is a number does it matter how it begins.
  induction denotes with
  | null => exact fun rest _ => tokens_cons (by decide) rfl
  | true => exact fun rest _ => tokens_cons (by decide) rfl
  | false => exact fun rest _ => tokens_cons (by decide) rfl
  | number text => exact fun rest ends => tokens_number text (ends trivial)
  | string legal => exact fun rest _ => cutInto_writeString legal.takenPiece.whole rest
  | emptyArray blank =>
      exact fun rest _ => ((array.append (cutInto_blanks blank)).append closes_array.cut) rest
  | array some each inductionHypothesis =>
      rename_i items
      intro rest _
      have cut : ∀ item ∈ items, CutBefore item.1 item.2.tokens :=
        fun item member rest ends => inductionHypothesis item member rest fun _ => ends
      cases items with
      | nil => exact absurd rfl some
      | cons item more =>
          have whole := array.append (cutInto_writeList closes_array cut)
          rw [← itemTokens_eq] at whole
          exact whole rest
  | emptyObject blank =>
      exact fun rest _ => ((object.append (cutInto_blanks blank)).append closes_object.cut) rest
  | object some keys values inductionHypothesis =>
      rename_i members
      intro rest _
      have cut : ∀ member ∈ members, CutBefore member.write (memberCut member) :=
        fun member listed => (keys member listed).cutBefore fun rest ends =>
          inductionHypothesis member listed rest fun _ => ends
      cases members with
      | nil => exact absurd rfl some
      | cons member more =>
          have whole := object.append (cutInto_writeList closes_object cut)
          rw [← memberTokens_eq] at whole
          exact whole rest
  | padded beforeBlank denotes afterBlank inductionHypothesis =>
      intro rest ends
      have after := fun number => afterBlank.endsNumber (ends number)
      rw [List.append_assoc, List.append_assoc, cutInto_blanks beforeBlank,
        inductionHypothesis _ after, cutInto_blanks afterBlank]
      simp [Function.comp_def]

/-- The text of a value is read as its tree. -/
theorem read_of_denotes {text : List UInt8} {tree : Tree} (denotes : Denotes text tree) :
    read text = some tree := by
  have cut := denotes.tokens_append [] fun _ => endsNumber_nil
  rw [List.append_nil] at cut
  simp [read, cut, tokens, finish_tokens_eq_some]

/-- Where nothing is open, nothing goes on after a finished value. -/
theorem finish_after_cons (tree : Tree) (token : Token) (rest : List Token) :
    finish [] (.after tree) (token :: rest) = none :=
  rfl

/-- The text of a value that is no number is refused with anything but blanks after it. -/
theorem read_append_eq_none {text extra : List UInt8} {tree : Tree} (denotes : Denotes text tree)
    (noNumber : ¬ tree.IsNumber) (visible : ∃ byte ∈ extra, isBlankByte byte = false) :
    read (text ++ extra) = none := by
  rw [read, denotes.tokens_append extra fun number => absurd number noNumber]
  cases cut : tokens extra with
  | none => rfl
  | some more =>
      cases more with
      | nil => exact absurd cut (tokens_ne_nil visible)
      | cons token others =>
          rw [Option.map_some, Option.bind_some, finish_tokens, finish_after_cons]

end NodeGate.Json
