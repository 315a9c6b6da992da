import NodeGate.Json.Token

/-!
# JSON trees

A tree is what a JSON text says once its blanks are gone: every string and number keeps its
spelling. `write` gives the compact text of a tree and `read` the tree of a text. Reading keeps
the arrays and objects that are still open in a list of frames, so a text may be nested to any
depth.
-/

namespace NodeGate.Json

/-- A JSON value with the spellings of its strings and numbers. -/
inductive Tree where
  | null
  | bool (value : Bool)
  | number (spelling : List UInt8)
  | string (spelling : List UInt8)
  | array (items : List Tree)
  | object (members : List (List UInt8 × Tree))

/-- A quoted spelling. -/
def writeString (spelling : List UInt8) : List UInt8 :=
  0x22 :: spelling ++ [0x22]

/-- Pieces with commas between them. -/
def writeList : List (List UInt8) → List UInt8
  | [] => []
  | [piece] => piece
  | piece :: next :: others => piece ++ 0x2C :: writeList (next :: others)

mutual

/-- The text of a tree without blanks. -/
def Tree.write : Tree → List UInt8
  | .null => [0x6E, 0x75, 0x6C, 0x6C]
  | .bool true => [0x74, 0x72, 0x75, 0x65]
  | .bool false => [0x66, 0x61, 0x6C, 0x73, 0x65]
  | .number spelling => spelling
  | .string spelling => writeString spelling
  | .array items => 0x5B :: writeList (writeItems items) ++ [0x5D]
  | .object members => 0x7B :: writeList (writeMembers members) ++ [0x7D]

/-- The texts of the items of an array. -/
def writeItems : List Tree → List (List UInt8)
  | [] => []
  | item :: rest => item.write :: writeItems rest

/-- The texts of the members of an object. -/
def writeMembers : List (List UInt8 × Tree) → List (List UInt8)
  | [] => []
  | (key, value) :: rest => (writeString key ++ 0x3A :: value.write) :: writeMembers rest

end

/-- An array or object that is still open, with what it holds so far, the latest first. An object
also has the key whose value is being read. -/
inductive Frame where
  | array (items : List Tree)
  | object (members : List (List UInt8 × Tree)) (key : List UInt8)

/-- What may come next while a text is read. -/
inductive Awaiting where
  | value
  /-- The first item of an array, or its end. -/
  | itemOrEnd
  /-- The first key of an object, or its end. -/
  | keyOrEnd
  /-- A key after a comma, in an object with these members so far. -/
  | key (members : List (List UInt8 × Tree))
  /-- The colon after a key. -/
  | colon (members : List (List UInt8 × Tree)) (key : List UInt8)
  /-- What may follow a finished value. -/
  | after (value : Tree)

/-- What a token means where a value is awaited. -/
def startValue (frames : List Frame) : Token → Option (List Frame × Awaiting)
  | .null => some (frames, .after .null)
  | .bool value => some (frames, .after (.bool value))
  | .number spelling => some (frames, .after (.number spelling))
  | .string spelling => some (frames, .after (.string spelling))
  | .openArray => some (frames, .itemOrEnd)
  | .openObject => some (frames, .keyOrEnd)
  | _ => none

/-- What a token means after a finished value: it goes on with the innermost open frame or closes
it. -/
def continueFrame (value : Tree) : List Frame → Token → Option (List Frame × Awaiting)
  | .array items :: frames, .comma => some (.array (value :: items) :: frames, .value)
  | .array items :: frames, .closeArray =>
    some (frames, .after (.array (value :: items).reverse))
  | .object members key :: frames, .comma => some (frames, .key ((key, value) :: members))
  | .object members key :: frames, .closeObject =>
    some (frames, .after (.object ((key, value) :: members).reverse))
  | _, _ => none

/-- One token further. -/
def advance (frames : List Frame) (awaiting : Awaiting) (token : Token) :
    Option (List Frame × Awaiting) :=
  match awaiting, token with
  | .value, token => startValue frames token
  | .itemOrEnd, .closeArray => some (frames, .after (.array []))
  | .itemOrEnd, token => startValue (.array [] :: frames) token
  | .keyOrEnd, .closeObject => some (frames, .after (.object []))
  | .keyOrEnd, .string key => some (frames, .colon [] key)
  | .key members, .string key => some (frames, .colon members key)
  | .colon members key, .colon => some (.object members key :: frames, .value)
  | .after value, token => continueFrame value frames token
  | _, _ => none

/-- The tree that tokens finish, from a given point on. -/
def finish (frames : List Frame) (awaiting : Awaiting) : List Token → Option Tree
  | [] =>
    match frames, awaiting with
    | [], .after value => some value
    | _, _ => none
  | token :: rest =>
    match advance frames awaiting token with
    | some (frames, awaiting) => finish frames awaiting rest
    | none => none

/-- The tree of a JSON text. -/
def read (text : List UInt8) : Option Tree :=
  (tokens text).bind (finish [] .value)

end NodeGate.Json
