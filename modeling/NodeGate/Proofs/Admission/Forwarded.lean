import NodeGate.Admission

/-!
# What forwarded headers say

`Headers.Conveys` relates a header to what it says under a reading: nothing where it is missing or
empty, and otherwise the one meaning of its value. A value without a meaning says neither, and
that is where admission refuses. `takeForwarded_of_forwardedBy` and
`exists_forwardedBy_of_takeForwarded` state this for the three headers by which a node hands a
caller on.
-/

namespace NodeGate

/-- A missing or empty header says nothing; any other says what its value means, if it means
anything. -/
inductive Headers.Conveys {Content : Type} (headers : Headers) (name : String)
    (Means : String → Content → Prop) : Option Content → Prop where
  | nothing (silent : headers.fields.get? name = none ∨ headers.fields.get? name = some "") :
      Conveys headers name Means none
  | content {value : String} {content : Content}
      (stored : headers.fields.get? name = some value) (nonempty : value ≠ "")
      (meaning : Means value content) : Conveys headers name Means (some content)

namespace Headers

variable {Content : Type} {headers : Headers} {name : String} {Means : String → Content → Prop}

/-- Nothing is read where nothing or an empty value is stored. -/
theorem get?_eq_none_iff :
    headers.get? name = none ↔
      headers.fields.get? name = none ∨ headers.fields.get? name = some "" := by
  cases stored : headers.fields.get? name with
  | none => simp [get?, stored]
  | some value => simp [get?, stored]

/-- A value is read where it is stored and not empty. -/
theorem get?_eq_some_iff {value : String} :
    headers.get? name = some value ↔ headers.fields.get? name = some value ∧ value ≠ "" := by
  simp [get?, Option.filter_eq_some_iff]

/-- A header says nothing exactly when nothing is read. -/
theorem conveys_none_iff : headers.Conveys name Means none ↔ headers.get? name = none := by
  constructor
  · rintro ⟨silent⟩
    exact get?_eq_none_iff.2 silent
  · intro absent
    exact .nothing (get?_eq_none_iff.1 absent)

/-- A header says something exactly when that is a meaning of the value that is read. -/
theorem conveys_some_iff {content : Content} :
    headers.Conveys name Means (some content) ↔
      ∃ value, headers.get? name = some value ∧ Means value content := by
  constructor
  · rintro ⟨⟩
    rename_i value stored nonempty meaning
    exact ⟨value, get?_eq_some_iff.2 ⟨stored, nonempty⟩, meaning⟩
  · rintro ⟨value, read, meaning⟩
    obtain ⟨stored, nonempty⟩ := get?_eq_some_iff.1 read
    exact .content stored nonempty meaning

/-- Where a value has one meaning, a header that says something says nothing else. -/
theorem Conveys.eq_some {said : Option Content} {content : Content}
    (functional : ∀ value first second, Means value first → Means value second → first = second)
    (left : headers.Conveys name Means said) (right : headers.Conveys name Means (some content)) :
    said = some content := by
  obtain ⟨value, read, meaning⟩ := conveys_some_iff.1 right
  cases said with
  | none => simp [conveys_none_iff.1 left] at read
  | some other =>
      obtain ⟨value', read', meaning'⟩ := conveys_some_iff.1 left
      cases read.symm.trans read'
      rw [functional value other content meaning' meaning]

/-- Under the reading that takes a value for itself, a header says what is read. -/
theorem conveys_itself_iff {said : Option String} :
    headers.Conveys name (fun value content => content = value) said ↔
      said = headers.get? name := by
  cases said with
  | none => rw [conveys_none_iff, eq_comm]
  | some content =>
      rw [conveys_some_iff]
      constructor
      · rintro ⟨value, read, rfl⟩
        exact read.symm
      · intro read
        exact ⟨content, read.symm, rfl⟩

end Headers

namespace Admission

/-- An identity is what a value decodes to. -/
def MeansIdentity (value : String) (identity : Identity) : Prop :=
  HeaderValue.decodeIdentity value = .ok identity

/-- An address is what a value decodes to. -/
def MeansAddress (value : String) (address : Address) : Prop :=
  HeaderValue.decodeAddress value = .ok address

/-- An origin is meant by its own name alone. -/
def MeansOrigin (value : String) (origin : Origin) : Prop :=
  value = origin.name

/-- A text names an origin exactly when it is the name of the origin. -/
theorem ofName?_eq_some_iff {value : String} {origin : Origin} :
    Origin.ofName? value = some origin ↔ MeansOrigin value origin := by
  constructor
  · intro named
    simp only [Origin.ofName?] at named
    split at named
    · rename_i isLocal
      cases named
      exact isLocal
    split at named
    · rename_i isTransport
      cases named
      exact isTransport
    split at named
    · rename_i isRest
      cases named
      exact isRest
    · cases named
  · rintro rfl
    cases origin <;> rfl

variable {complaints : HeaderValue.Complaints} {request : Request} {otherwise : Option Address}
  {context result : SecurityContext}

/-- The context takes the identity that is said, and keeps its own where none is. -/
theorem takeIdentity_of_conveys {identity : Option Identity}
    (said : request.headers.Conveys Headers.userName MeansIdentity identity) :
    takeIdentity complaints request context =
      .ok { context with identity := identity <|> context.identity } := by
  cases identity with
  | none =>
      have absent := Headers.conveys_none_iff.1 said
      simp only [takeIdentity, absent]
      rfl
  | some identity =>
      obtain ⟨value, read, meaning⟩ := Headers.conveys_some_iff.1 said
      have decoded : HeaderValue.decodeIdentity value = .ok identity := meaning
      simp only [takeIdentity, read, decoded]
      rfl

/-- The context takes the address that is said, or else the one given. -/
theorem takeAddress_of_conveys {address : Option Address}
    (said : request.headers.Conveys Headers.remoteAddressName MeansAddress address) :
    takeAddress complaints request otherwise context =
      .ok { context with remoteAddress := address <|> otherwise <|> context.remoteAddress } := by
  cases address with
  | none =>
      have absent := Headers.conveys_none_iff.1 said
      simp only [takeAddress, absent]
      cases otherwise <;> rfl
  | some address =>
      obtain ⟨value, read, meaning⟩ := Headers.conveys_some_iff.1 said
      have decoded : HeaderValue.decodeAddress value = .ok address := meaning
      simp only [takeAddress, read, decoded]
      rfl

/-- The context takes the origin that is said, and keeps its own where none is. -/
theorem takeOrigin_of_conveys {origin : Option Origin}
    (said : request.headers.Conveys Headers.originName MeansOrigin origin) :
    takeOrigin request context = .ok { context with origin := origin <|> context.origin } := by
  cases origin with
  | none =>
      have absent := Headers.conveys_none_iff.1 said
      simp only [takeOrigin, absent]
      rfl
  | some origin =>
      obtain ⟨value, read, meaning⟩ := Headers.conveys_some_iff.1 said
      have named : Origin.ofName? value = some origin := ofName?_eq_some_iff.2 meaning
      simp only [takeOrigin, read, named]
      rfl

/-- Where the identity is taken, its header says something or nothing. -/
theorem exists_conveys_of_takeIdentity
    (taken : takeIdentity complaints request context = .ok result) :
    ∃ identity, request.headers.Conveys Headers.userName MeansIdentity identity := by
  cases read : request.headers.get? Headers.userName with
  | none => exact ⟨none, Headers.conveys_none_iff.2 read⟩
  | some value =>
      cases decoded : HeaderValue.decodeIdentity value with
      | error fault => simp [takeIdentity, read, decoded] at taken
      | ok identity => exact ⟨some identity, Headers.conveys_some_iff.2 ⟨value, read, decoded⟩⟩

/-- Where the address is taken, its header says something or nothing. -/
theorem exists_conveys_of_takeAddress
    (taken : takeAddress complaints request otherwise context = .ok result) :
    ∃ address, request.headers.Conveys Headers.remoteAddressName MeansAddress address := by
  cases read : request.headers.get? Headers.remoteAddressName with
  | none => exact ⟨none, Headers.conveys_none_iff.2 read⟩
  | some value =>
      cases decoded : HeaderValue.decodeAddress value with
      | error fault => simp [takeAddress, read, decoded] at taken
      | ok address => exact ⟨some address, Headers.conveys_some_iff.2 ⟨value, read, decoded⟩⟩

/-- Where the origin is taken, its header says something or nothing. -/
theorem exists_conveys_of_takeOrigin (taken : takeOrigin request context = .ok result) :
    ∃ origin, request.headers.Conveys Headers.originName MeansOrigin origin := by
  cases read : request.headers.get? Headers.originName with
  | none => exact ⟨none, Headers.conveys_none_iff.2 read⟩
  | some value =>
      cases named : Origin.ofName? value with
      | none => simp [takeOrigin, read, named] at taken
      | some origin =>
          exact ⟨some origin,
            Headers.conveys_some_iff.2 ⟨value, read, ofName?_eq_some_iff.1 named⟩⟩

/-- What the three headers say of a caller that is handed on. -/
structure ForwardedBy (headers : Headers) (identity : Option Identity)
    (address : Option Address) (origin : Option Origin) : Prop where
  identity : headers.Conveys Headers.userName MeansIdentity identity
  address : headers.Conveys Headers.remoteAddressName MeansAddress address
  origin : headers.Conveys Headers.originName MeansOrigin origin

/-- The context takes what the three headers say. -/
theorem takeForwarded_of_forwardedBy {identity : Option Identity} {address : Option Address}
    {origin : Option Origin} (forwarded : ForwardedBy request.headers identity address origin) :
    takeForwarded complaints request otherwise context =
      .ok { context with
        identity := identity <|> context.identity
        remoteAddress := address <|> otherwise <|> context.remoteAddress
        origin := origin <|> context.origin } := by
  unfold takeForwarded
  rw [takeIdentity_of_conveys forwarded.identity]
  change (takeAddress complaints request otherwise _ >>= takeOrigin request) = _
  rw [takeAddress_of_conveys forwarded.address]
  change takeOrigin request _ = _
  rw [takeOrigin_of_conveys forwarded.origin]

/-- Forwarded values are taken only where each of the three headers says something or nothing. -/
theorem exists_forwardedBy_of_takeForwarded
    (taken : takeForwarded complaints request otherwise context = .ok result) :
    ∃ identity address origin, ForwardedBy request.headers identity address origin := by
  unfold takeForwarded at taken
  cases first : takeIdentity complaints request context with
  | error refusal => simp [first, bind, Except.bind] at taken
  | ok named =>
      rw [first] at taken
      change (takeAddress complaints request otherwise named >>= takeOrigin request) = _ at taken
      cases second : takeAddress complaints request otherwise named with
      | error refusal => simp [second, bind, Except.bind] at taken
      | ok placed =>
          rw [second] at taken
          obtain ⟨identity, identityConveyed⟩ := exists_conveys_of_takeIdentity first
          obtain ⟨address, addressConveyed⟩ := exists_conveys_of_takeAddress second
          have third : takeOrigin request placed = .ok result := taken
          obtain ⟨origin, originConveyed⟩ := exists_conveys_of_takeOrigin third
          exact ⟨identity, address, origin, identityConveyed, addressConveyed, originConveyed⟩

end Admission

end NodeGate
