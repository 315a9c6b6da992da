import NodeGate.Json.Tree

/-!
# Trees as tokens

A tree is a list of tokens before it is a text. `finish_tokens` shows that the reader, awaiting a
value, goes through the tokens of any tree and holds exactly that tree, whatever is open around
it and whatever follows.
-/

namespace NodeGate.Json

mutual

/-- The tokens of a tree. -/
def Tree.tokens : Tree → List Token
  | .null => [.null]
  | .bool value => [.bool value]
  | .number spelling => [.number spelling]
  | .string spelling => [.string spelling]
  | .array [] => [.openArray, .closeArray]
  | .array (item :: rest) => .openArray :: (item.tokens ++ itemTokens rest)
  | .object [] => [.openObject, .closeObject]
  | .object ((key, value) :: rest) =>
    .openObject :: .string key :: .colon :: (value.tokens ++ memberTokens rest)

/-- The tokens of the later items of an array and of its end. -/
def itemTokens : List Tree → List Token
  | [] => [.closeArray]
  | item :: rest => .comma :: (item.tokens ++ itemTokens rest)

/-- The tokens of the later members of an object and of its end. -/
def memberTokens : List (List UInt8 × Tree) → List Token
  | [] => [.closeObject]
  | (key, value) :: rest =>
    .comma :: .string key :: .colon :: (value.tokens ++ memberTokens rest)

end

/-- Where the first item of an array is awaited, a value begins as it does in an array that has
begun. -/
theorem finish_itemOrEnd (frames : List Frame) (tree : Tree) (rest : List Token) :
    finish frames .itemOrEnd (tree.tokens ++ rest) =
      finish (.array [] :: frames) .value (tree.tokens ++ rest) := by
  cases tree with
  | null | bool | number | string => rfl
  | array items => cases items <;> rfl
  | object members => cases members <;> rfl

mutual

/-- Where a value is awaited, the tokens of a tree leave the reader after that tree. -/
theorem finish_tokens : ∀ (tree : Tree) (frames : List Frame) (rest : List Token),
    finish frames .value (tree.tokens ++ rest) = finish frames (.after tree) rest
  | .null, _, _ | .bool _, _, _ | .number _, _, _ | .string _, _, _ => rfl
  | .array [], _, _ | .object [], _, _ => rfl
  | .array (item :: items), frames, rest => by
      have first := finish_tokens item (.array [] :: frames) (itemTokens items ++ rest)
      have later := finish_itemTokens items frames [] item rest
      calc finish frames .value ((Tree.array (item :: items)).tokens ++ rest)
          = finish frames .itemOrEnd (item.tokens ++ (itemTokens items ++ rest)) := by
            rw [Tree.tokens, List.cons_append, List.append_assoc]
            rfl
        _ = finish (.array [] :: frames) .value (item.tokens ++ (itemTokens items ++ rest)) :=
            finish_itemOrEnd frames item _
        _ = finish frames (.after (.array (item :: items))) rest := by
            rw [first, later]
            rfl
  | .object ((key, value) :: members), frames, rest => by
      have first := finish_tokens value (.object [] key :: frames) (memberTokens members ++ rest)
      have later := finish_memberTokens members frames [] key value rest
      calc finish frames .value ((Tree.object ((key, value) :: members)).tokens ++ rest)
          = finish (.object [] key :: frames) .value
              (value.tokens ++ (memberTokens members ++ rest)) := by
            rw [Tree.tokens, List.cons_append, List.cons_append, List.cons_append,
              List.append_assoc]
            rfl
        _ = finish frames (.after (.object ((key, value) :: members))) rest := by
            rw [first, later]
            rfl

/-- After an item, the tokens of the later ones leave the reader after the whole array. -/
theorem finish_itemTokens : ∀ (items : List Tree) (frames : List Frame) (done : List Tree)
    (item : Tree) (rest : List Token),
    finish (.array done :: frames) (.after item) (itemTokens items ++ rest) =
      finish frames (.after (.array (done.reverse ++ item :: items))) rest
  | [], frames, done, item, rest => by
      simp [itemTokens, finish, advance, continueFrame]
  | next :: items, frames, done, item, rest => by
      have first := finish_tokens next (.array (item :: done) :: frames) (itemTokens items ++ rest)
      have later := finish_itemTokens items frames (item :: done) next rest
      calc finish (.array done :: frames) (.after item) (itemTokens (next :: items) ++ rest)
          = finish (.array (item :: done) :: frames) .value
              (next.tokens ++ (itemTokens items ++ rest)) := by
            rw [itemTokens, List.cons_append, List.append_assoc]
            rfl
        _ = finish frames (.after (.array (done.reverse ++ item :: next :: items))) rest := by
            rw [first, later, List.reverse_cons, List.append_assoc]
            rfl

/-- After a member, the tokens of the later ones leave the reader after the whole object. -/
theorem finish_memberTokens : ∀ (members : List (List UInt8 × Tree)) (frames : List Frame)
    (done : List (List UInt8 × Tree)) (key : List UInt8) (value : Tree) (rest : List Token),
    finish (.object done key :: frames) (.after value) (memberTokens members ++ rest) =
      finish frames (.after (.object (done.reverse ++ (key, value) :: members))) rest
  | [], frames, done, key, value, rest => by
      simp [memberTokens, finish, advance, continueFrame]
  | (nextKey, next) :: members, frames, done, key, value, rest => by
      have first := finish_tokens next (.object ((key, value) :: done) nextKey :: frames)
        (memberTokens members ++ rest)
      have later := finish_memberTokens members frames ((key, value) :: done) nextKey next rest
      calc finish (.object done key :: frames) (.after value)
              (memberTokens ((nextKey, next) :: members) ++ rest)
          = finish (.object ((key, value) :: done) nextKey :: frames) .value
              (next.tokens ++ (memberTokens members ++ rest)) := by
            rw [memberTokens, List.cons_append, List.cons_append, List.cons_append,
              List.append_assoc]
            rfl
        _ = finish frames (.after (.object (done.reverse ++ (key, value) :: (nextKey, next) ::
              members))) rest := by
            rw [first, later, List.reverse_cons, List.append_assoc]
            rfl

end

/-- The tokens of a tree are read as the tree. -/
theorem finish_tokens_eq_some (tree : Tree) : finish [] .value tree.tokens = some tree := by
  have read := finish_tokens tree [] []
  rw [List.append_nil] at read
  rw [read]
  rfl

end NodeGate.Json
