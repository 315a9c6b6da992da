import NodeGate.Proofs.Admission.Forwarded

/-!
# Forwarded headers that say nothing

A header that is neither empty nor meaningful is malformed, with a reason that its reader gives.
Forwarded values are refused over the first malformed header, in the order identity, address,
origin, and the refusal keeps what the headers before it say (`takeForwarded_error_iff`).
-/

namespace NodeGate

/-- A header holds a value that is not empty and that its reader fails on, for a reason. -/
def Headers.Malformed (headers : Headers) (name : String) (Fails : String → String → Prop)
    (reason : String) : Prop :=
  ∃ value, headers.fields.get? name = some value ∧ value ≠ "" ∧ Fails value reason

/-- A reader finds one meaning in a value or fails on it for one reason, never both. -/
structure Headers.Reader {Content : Type} (Means : String → Content → Prop)
    (Fails : String → String → Prop) : Prop where
  total : ∀ value, (∃ content, Means value content) ∨ ∃ reason, Fails value reason
  exclusive : ∀ {value content reason}, Means value content → ¬ Fails value reason
  reason_unique : ∀ {value first second}, Fails value first → Fails value second → first = second

namespace Headers

variable {Content : Type} {headers : Headers} {name reason : String}
  {Means : String → Content → Prop} {Fails : String → String → Prop}

/-- A header is malformed exactly when the reader fails on the value that is read. -/
theorem malformed_iff :
    headers.Malformed name Fails reason ↔
      ∃ value, headers.get? name = some value ∧ Fails value reason := by
  constructor
  · rintro ⟨value, stored, nonempty, fails⟩
    exact ⟨value, get?_eq_some_iff.2 ⟨stored, nonempty⟩, fails⟩
  · rintro ⟨value, read, fails⟩
    obtain ⟨stored, nonempty⟩ := get?_eq_some_iff.1 read
    exact ⟨value, stored, nonempty, fails⟩

/-- A header says something or nothing, or it is malformed. -/
theorem Reader.conveys_or_malformed (reader : Reader Means Fails) (headers : Headers)
    (name : String) :
    (∃ said, headers.Conveys name Means said) ∨ ∃ reason, headers.Malformed name Fails reason := by
  cases read : headers.get? name with
  | none => exact .inl ⟨none, conveys_none_iff.2 read⟩
  | some value =>
      rcases reader.total value with ⟨content, meaning⟩ | ⟨reason, fails⟩
      · exact .inl ⟨some content, conveys_some_iff.2 ⟨value, read, meaning⟩⟩
      · exact .inr ⟨reason, malformed_iff.2 ⟨value, read, fails⟩⟩

/-- A header that says something or nothing is not malformed. -/
theorem Reader.not_malformed (reader : Reader Means Fails) {said : Option Content}
    (conveyed : headers.Conveys name Means said) : ¬ headers.Malformed name Fails reason := by
  intro malformed
  obtain ⟨value, read, fails⟩ := malformed_iff.1 malformed
  cases said with
  | none => simp [conveys_none_iff.1 conveyed] at read
  | some content =>
      obtain ⟨other, read', meaning⟩ := conveys_some_iff.1 conveyed
      cases read.symm.trans read'
      exact reader.exclusive meaning fails

/-- A header is malformed for one reason. -/
theorem Reader.malformed_unique (reader : Reader Means Fails) {first second : String}
    (left : headers.Malformed name Fails first) (right : headers.Malformed name Fails second) :
    first = second := by
  obtain ⟨value, read, fails⟩ := malformed_iff.1 left
  obtain ⟨other, read', fails'⟩ := malformed_iff.1 right
  cases read.symm.trans read'
  exact reader.reason_unique fails fails'

end Headers

namespace Admission

/-- No identity is read from a value. -/
def FailsIdentity (complaints : HeaderValue.Complaints) (value reason : String) : Prop :=
  ∃ fault, HeaderValue.decodeIdentity value = .error fault ∧
    reason = fault.message complaints.identity

/-- No address is read from a value. -/
def FailsAddress (complaints : HeaderValue.Complaints) (value reason : String) : Prop :=
  ∃ fault, HeaderValue.decodeAddress value = .error fault ∧
    reason = fault.message complaints.address

/-- A value names no origin. -/
def FailsOrigin (value reason : String) : Prop :=
  (∀ origin : Origin, value ≠ origin.name) ∧ reason = Origin.unknownMessage value

/-- A decoder that answers with a content or a fault is a reader. -/
theorem reader_of_decoder {Content : Type} (decode : String → Except HeaderValue.Fault Content)
    (complaint : List UInt8 → String) :
    Headers.Reader (fun value content => decode value = .ok content)
      (fun value reason =>
        ∃ fault, decode value = .error fault ∧ reason = fault.message complaint) where
  total value := by
    cases decode value with
    | ok content => exact .inl ⟨content, rfl⟩
    | error fault => exact .inr ⟨_, fault, rfl, rfl⟩
  exclusive := by
    rintro value content reason decoded ⟨fault, failed, _⟩
    simp [decoded] at failed
  reason_unique := by
    rintro value first second ⟨fault, failed, rfl⟩ ⟨fault', failed', rfl⟩
    cases failed.symm.trans failed'
    rfl

variable {complaints : HeaderValue.Complaints}

/-- Identities have a reader. -/
theorem identityReader : Headers.Reader MeansIdentity (FailsIdentity complaints) :=
  reader_of_decoder HeaderValue.decodeIdentity complaints.identity

/-- Addresses have a reader. -/
theorem addressReader : Headers.Reader MeansAddress (FailsAddress complaints) :=
  reader_of_decoder HeaderValue.decodeAddress complaints.address

/-- Origins have a reader. -/
theorem originReader : Headers.Reader MeansOrigin FailsOrigin where
  total value := by
    by_cases named : ∃ origin : Origin, value = origin.name
    · exact .inl named
    · exact .inr ⟨_, fun origin same => named ⟨origin, same⟩, rfl⟩
  exclusive := by
    rintro value origin reason named ⟨unnamed, _⟩
    exact unnamed origin named
  reason_unique := by
    rintro value first second ⟨_, rfl⟩ ⟨_, rfl⟩
    rfl

variable {request : Request} {otherwise : Option Address} {context : SecurityContext}
  {refusal : Refusal} {reason : String}

/-- A malformed identity is refused. -/
theorem takeIdentity_of_malformed
    (malformed : request.headers.Malformed Headers.userName (FailsIdentity complaints) reason) :
    takeIdentity complaints request context =
      .error ⟨.malformedHeader Headers.userName reason, context⟩ := by
  obtain ⟨value, read, fault, failed, rfl⟩ := Headers.malformed_iff.1 malformed
  simp only [takeIdentity, read, failed]

/-- A malformed address is refused. -/
theorem takeAddress_of_malformed
    (malformed :
      request.headers.Malformed Headers.remoteAddressName (FailsAddress complaints) reason) :
    takeAddress complaints request otherwise context =
      .error ⟨.malformedHeader Headers.remoteAddressName reason, context⟩ := by
  obtain ⟨value, read, fault, failed, rfl⟩ := Headers.malformed_iff.1 malformed
  simp only [takeAddress, read, failed]

/-- A malformed origin is refused. -/
theorem takeOrigin_of_malformed
    (malformed : request.headers.Malformed Headers.originName FailsOrigin reason) :
    takeOrigin request context = .error ⟨.malformedHeader Headers.originName reason, context⟩ := by
  obtain ⟨value, read, unnamed, rfl⟩ := Headers.malformed_iff.1 malformed
  have unknown : Origin.ofName? value = none := by
    rw [Option.eq_none_iff_forall_ne_some]
    exact fun origin named => unnamed origin (ofName?_eq_some_iff.1 named)
  simp only [takeOrigin, read, unknown]

/-- How forwarded values are refused: over the first malformed header of the three, with a context
that holds what the ones before it say. -/
inductive RefusedForwarding (complaints : HeaderValue.Complaints) (headers : Headers)
    (otherwise : Option Address) (context : SecurityContext) : Refusal → Prop where
  | identity {reason : String}
      (malformed : headers.Malformed Headers.userName (FailsIdentity complaints) reason) :
      RefusedForwarding complaints headers otherwise context
        ⟨.malformedHeader Headers.userName reason, context⟩
  | address {identity : Option Identity} {reason : String}
      (identitySaid : headers.Conveys Headers.userName MeansIdentity identity)
      (malformed : headers.Malformed Headers.remoteAddressName (FailsAddress complaints) reason) :
      RefusedForwarding complaints headers otherwise context
        ⟨.malformedHeader Headers.remoteAddressName reason,
          { context with identity := identity <|> context.identity }⟩
  | origin {identity : Option Identity} {address : Option Address} {reason : String}
      (identitySaid : headers.Conveys Headers.userName MeansIdentity identity)
      (addressSaid : headers.Conveys Headers.remoteAddressName MeansAddress address)
      (malformed : headers.Malformed Headers.originName FailsOrigin reason) :
      RefusedForwarding complaints headers otherwise context
        ⟨.malformedHeader Headers.originName reason,
          { context with
            identity := identity <|> context.identity
            remoteAddress := address <|> otherwise <|> context.remoteAddress }⟩

/-- Forwarded values are refused over the first malformed header. -/
theorem takeForwarded_of_refusedForwarding
    (refused : RefusedForwarding complaints request.headers otherwise context refusal) :
    takeForwarded complaints request otherwise context = .error refusal := by
  unfold takeForwarded
  cases refused with
  | identity malformed =>
      rw [takeIdentity_of_malformed malformed]
      rfl
  | address identitySaid malformed =>
      rw [takeIdentity_of_conveys identitySaid]
      change (takeAddress complaints request otherwise _ >>= takeOrigin request) = _
      rw [takeAddress_of_malformed malformed]
      rfl
  | origin identitySaid addressSaid malformed =>
      rw [takeIdentity_of_conveys identitySaid]
      change (takeAddress complaints request otherwise _ >>= takeOrigin request) = _
      rw [takeAddress_of_conveys addressSaid]
      exact takeOrigin_of_malformed malformed

/-- Forwarded values are refused over the first malformed header, and over nothing else. -/
theorem takeForwarded_error_iff :
    takeForwarded complaints request otherwise context = .error refusal ↔
      RefusedForwarding complaints request.headers otherwise context refusal := by
  refine ⟨fun refused => ?_, takeForwarded_of_refusedForwarding⟩
  rcases identityReader.conveys_or_malformed request.headers Headers.userName with
    ⟨identity, identitySaid⟩ | ⟨reason, malformed⟩
  · rcases addressReader.conveys_or_malformed request.headers Headers.remoteAddressName with
      ⟨address, addressSaid⟩ | ⟨reason, malformed⟩
    · rcases originReader.conveys_or_malformed request.headers Headers.originName with
        ⟨origin, originSaid⟩ | ⟨reason, malformed⟩
      · rw [takeForwarded_of_forwardedBy ⟨identitySaid, addressSaid, originSaid⟩] at refused
        cases refused
      · have step : RefusedForwarding complaints request.headers otherwise context _ :=
          .origin identitySaid addressSaid malformed
        cases (takeForwarded_of_refusedForwarding step).symm.trans refused
        exact step
    · have step : RefusedForwarding complaints request.headers otherwise context _ :=
        .address identitySaid malformed
      cases (takeForwarded_of_refusedForwarding step).symm.trans refused
      exact step
  · have step : RefusedForwarding complaints request.headers otherwise context _ :=
      .identity malformed
    cases (takeForwarded_of_refusedForwarding step).symm.trans refused
    exact step

end Admission

end NodeGate
