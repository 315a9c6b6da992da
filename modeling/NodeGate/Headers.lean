import NodeGate.NameMap

/-!
# Transport headers

The text headers of a request. Whoever reads a value takes an empty one for absent, while an
empty value is stored, listed, counted, and seen by the search for private names. The names that
this layer owns begin with a common mark; a caller that is no node may not send any of them.
-/

namespace NodeGate

/-- The headers of a request by name. -/
structure Headers where
  fields : NameMap String := NameMap.empty
  deriving DecidableEq, Repr

namespace Headers

/-- The mark that every private name begins with. -/
def privateMark : String := "_sg_"

/-- The header of the forwarded identity. -/
def userName : String := "_sg_user_header"

/-- The header of the address that a chain of requests came from. -/
def remoteAddressName : String := "_sg_remote_address_header"

/-- The header of the origin. -/
def originName : String := "_sg_origin_header"

/-- The header of the sending node's cluster name. -/
def clusterName : String := "_sg_remotecn"

/-- The header of the action class that a chain of requests began with. -/
def initialClassName : String := "_sg_initial_action_class_header"

/-- Whether a header name is private. -/
def isPrivate (name : String) : Bool :=
  privateMark.toList.isPrefixOf name.toList

/-- No headers. -/
def empty : Headers := {}

/-- The value of a header; an empty value counts as none. -/
def get? (headers : Headers) (name : String) : Option String :=
  (headers.fields.get? name).filter (· ≠ "")

/-- Whether a header has a value. -/
def contains (headers : Headers) (name : String) : Bool :=
  (headers.get? name).isSome

/-- The headers with one set. -/
def insert (headers : Headers) (name value : String) : Headers :=
  ⟨headers.fields.insert name value⟩

/-- The headers with one set unless it has a value. -/
def insertIfAbsent (headers : Headers) (name value : String) : Headers :=
  if headers.contains name then headers else headers.insert name value

/-- The headers with one set where there is something to set it to. -/
def insert? (headers : Headers) (name : String) (value : Option String) : Headers :=
  match value with
  | some value => headers.insert name value
  | none => headers

/-- The headers with the pairs of a list set from left to right. -/
def insertAll (headers : Headers) (pairs : List (String × String)) : Headers :=
  ⟨headers.fields.insertAll pairs⟩

/-- The headers without one. -/
def erase (headers : Headers) (name : String) : Headers :=
  ⟨headers.fields.erase name⟩

/-- The headers of a list of pairs; the last value of a name wins. -/
def ofList (pairs : List (String × String)) : Headers :=
  empty.insertAll pairs

/-- Every header with its value, empty values included, in rising order of name. -/
def toList (headers : Headers) : List (String × String) :=
  headers.fields.entries

/-- The least private name, whatever its value. -/
def firstPrivate? (headers : Headers) : Option String :=
  headers.fields.names.find? isPrivate

/-- How many headers are stored. -/
def size (headers : Headers) : Nat :=
  headers.fields.size

/-- Whether no header is stored. -/
def isEmpty (headers : Headers) : Bool :=
  headers.fields.isEmpty

/-- What can be done to headers. -/
inductive Change where
  | insert (name value : String)
  | insertIfAbsent (name value : String)
  | remove (name : String)

/-- What a change answers. -/
inductive Answer where
  | done
  /-- Whether the value was written. -/
  | written (isWritten : Bool)
  /-- What was stored, an empty value included. -/
  | removed (stored : Option String)
  deriving DecidableEq

/-- One change. -/
def perform (headers : Headers) : Change → Headers × Answer
  | .insert name value => (headers.insert name value, .done)
  | .insertIfAbsent name value =>
    (headers.insertIfAbsent name value, .written !(headers.contains name))
  | .remove name => (headers.erase name, .removed (headers.fields.get? name))

/-- Setting a header to a value that is not empty makes it readable. -/
theorem get?_insert (headers : Headers) (name other value : String) :
    (headers.insert name value).get? other =
      if other = name then (some value).filter (· ≠ "") else headers.get? other := by
  simp only [get?, insert, NameMap.get?_insert]
  split <;> rfl

end Headers

end NodeGate
