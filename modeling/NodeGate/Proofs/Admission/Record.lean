import NodeGate.Proofs.Admission.Precedence
import NodeGate.Proofs.HeaderValue

/-!
# What the record of a rejection may say

A rejected admission leaves one record, built from the context as far as it was filled. A sender
that is not accepted has put nothing into that context, so its record names nobody and gives the
address of its socket. Only a sender that is believed can be rejected with forwarded values taken,
and its record tells what the headers before the malformed one say (`receive_audited`).
-/

namespace NodeGate.Admission

variable {policy : Policy} {request : Request} {channel : Channel} {refusal : Refusal}
  {context : SecurityContext} {error : GuardError}

/-- Nobody is taken for a node: the kind of channel is unknown, or the peer is not recognised. -/
inductive Unaccepted (policy : Policy) (request : Request) (channel : Channel) : Prop where
  | unsupported (notDirect : channel.type ≠ some "direct")
      (notNetwork : channel.type ≠ some "netty")
  | peer (unrecognised : Unrecognised policy request channel)

/-- A context into which neither a header nor the backend has put anything. -/
structure Untouched (context : SecurityContext) : Prop where
  identity : context.identity = none
  remoteAddress : context.remoteAddress = none
  origin : context.origin = none

/-- How a request is rejected, as far as its context goes. -/
inductive Rejects (policy : Policy) (request : Request) (channel : Channel) : Refusal → Prop where
  /-- Before any header is taken, and whatever the backend answers. -/
  | untouched {refusal : Refusal} (context : Untouched refusal.context)
      (sender : refusal.error = .channelClosed ∨ Unaccepted policy request channel) :
      Rejects policy request channel refusal
  /-- Over a header of a sender that is believed. -/
  | forwarding {refusal : Refusal} {otherwise : Option Address} {context : SecurityContext}
      (sender : Believed policy request channel) (start : Untouched context)
      (own : (otherwise <|> request.remoteAddress) = request.remoteAddress)
      (refused : RefusedForwarding policy.complaints request.headers otherwise context refusal) :
      Rejects policy request channel refusal

/-- A sender that is not accepted is not believed. -/
theorem Unaccepted.not_believed (unaccepted : Unaccepted policy request channel) :
    ¬ Believed policy request channel := by
  cases unaccepted with
  | peer unrecognised => exact unrecognised.not_believed
  | unsupported notDirect notNetwork =>
      intro believed
      cases believed with
      | within direct => exact notDirect direct
      | node network => exact notNetwork network

/-- The backend's answer puts nothing into the context of a rejection. -/
theorem context_of_settle {answer : BackendAnswer}
    (rejected : settle request context answer = .rejected refusal) : refusal.context = context := by
  cases answer with
  | known identity =>
      cases placed : request.remoteAddress <;> simp only [settle, placed] at rejected <;>
        cases rejected
      rfl
  | unknown =>
      cases listed : isUnauthenticatedAction request.action <;>
        simp only [settle, listed] at rejected <;> cases rejected
      rfl
  | failed failure =>
      cases rejected
      rfl
  | pending => cases rejected

/-- A caller is rejected with nothing in the context. -/
theorem FromCaller.untouched {principal : String}
    (sender : FromCaller policy request channel principal)
    (rejected : judge policy request channel = .rejected refusal) : Untouched refusal.context := by
  rw [sender.judge_eq] at rejected
  split at rejected
  · cases rejected
    exact ⟨rfl, rfl, rfl⟩
  · split at rejected
    · cases rejected
      exact ⟨rfl, rfl, rfl⟩
    · rw [context_of_settle rejected]
      exact ⟨rfl, rfl, rfl⟩

/-- So is a peer that was not verified. -/
theorem FromNobody.untouched (sender : FromNobody channel)
    (rejected : judge policy request channel = .rejected refusal) : Untouched refusal.context := by
  rw [sender.judge_eq] at rejected
  split at rejected
  · cases rejected
    exact ⟨rfl, rfl, rfl⟩
  · cases rejected
    exact ⟨rfl, rfl, rfl⟩

/-- Where forwarded values decide, a rejection is one over a header. -/
theorem refusedForwarding_of_judge {otherwise : Option Address}
    {finish : SecurityContext → SecurityContext}
    (judged : judge policy request channel =
      match takeForwarded policy.complaints request otherwise context with
      | .ok context => .dispatched (finish context)
      | .error refusal => .rejected refusal)
    (rejected : judge policy request channel = .rejected refusal) :
    RefusedForwarding policy.complaints request.headers otherwise context refusal := by
  rw [rejected] at judged
  rw [← takeForwarded_error_iff]
  cases taken : takeForwarded policy.complaints request otherwise context with
  | ok result =>
      rw [taken] at judged
      cases judged
  | error other =>
      rw [taken] at judged
      cases judged
      rfl

/-- Within the node, a malformed header rejects the request. -/
theorem FromItself.rejected_of_refusedForwarding (sender : FromItself channel)
    (refused :
      RefusedForwarding policy.complaints request.headers none (directContext request) refusal) :
    judge policy request channel = .rejected refusal := by
  rw [sender.judge_eq, takeForwarded_of_refusedForwarding refused]

/-- Every rejection is one of the two kinds. -/
theorem rejects_of_judge (rejected : judge policy request channel = .rejected refusal) :
    Rejects policy request channel refusal := by
  -- Only the node itself and a recognised node have their headers read. For a recognised node the
  -- address of the socket is in the context already, which is what the record falls back to anyway.
  cases sender policy request channel with
  | closed closed =>
      cases (judge_of_closed closed).symm.trans rejected
      exact .untouched ⟨rfl, rfl, rfl⟩ (.inl rfl)
  | unsupported isOpen unsupported =>
      cases (judge_of_unsupported isOpen unsupported).symm.trans rejected
      exact .untouched ⟨rfl, rfl, rfl⟩ (.inr (.unsupported
        (type_ne_of_kind?_eq_none unsupported .direct)
        (type_ne_of_kind?_eq_none unsupported .network)))
  | itself sender =>
      exact .forwarding (.within (kind?_eq_some_iff.1 sender.direct)) ⟨rfl, rfl, rfl⟩ rfl
        (refusedForwarding_of_judge sender.judge_eq rejected)
  | node sender =>
      have believed := Believed.node (kind?_eq_some_iff.1 sender.network) sender.verified
        sender.recognised
      have own : (request.remoteAddress <|> request.remoteAddress) = request.remoteAddress := by
        cases request.remoteAddress <;> rfl
      exact .forwarding believed ⟨rfl, rfl, rfl⟩ own
        (refusedForwarding_of_judge sender.judge_eq rejected)
  | caller sender =>
      exact .untouched (sender.untouched rejected) (.inr (.peer sender.toUnrecognised))
  | nobody sender =>
      have peer : Unrecognised policy request channel :=
        ⟨kind?_eq_some_iff.1 sender.network,
          fun principal verified => by simp [sender.unverified] at verified⟩
      exact .untouched (sender.untouched rejected) (.inr (.peer peer))

/-- A record tells what was refused and under which category, and never an origin. -/
structure RecordsRejection (request : Request) (error : GuardError) (record : AuditRecord) :
    Prop where
  category : error.category? = some record.category
  /-- The wording of the refusal is told of channel faults only. -/
  detail : record.detail = if record.category = .sslException then some error.message else none
  action : record.action = request.action
  summaryAction : record.request.action = request.action
  requestClass : record.request.requestClass = request.payload.logicalClass
  origin : record.request.origin = none

/-- A record names no user and gives the address of the socket. -/
structure NamesNobody (request : Request) (record : AuditRecord) : Prop where
  user : record.request.user = none
  address : record.request.remoteAddress = request.remoteAddress

/-- A record of a rejection over a header takes what the headers before it say. -/
structure TakesForwarded (request : Request) (header : String) (record : AuditRecord) : Prop where
  /-- The user is the one whose identity is forwarded. -/
  user_iff : ∀ user, record.request.user = some user ↔
    ∃ identity, request.headers.Conveys "_sg_user_header" MeansIdentity (some identity) ∧
      identity.name = user
  /-- A forwarded address is told where it is the origin that is malformed. -/
  forwarded : header = "_sg_origin_header" → ∀ address,
    request.headers.Conveys "_sg_remote_address_header" MeansAddress (some address) →
      record.request.remoteAddress = some address
  /-- Otherwise the address is that of the socket. -/
  socket : (header = "_sg_origin_header" → ∀ address,
      ¬ request.headers.Conveys "_sg_remote_address_header" MeansAddress (some address)) →
    record.request.remoteAddress = request.remoteAddress

/-- The record of a rejection, as far as the headers and the sender go. -/
structure AdmissionRecord (policy : Policy) (request : Request) (channel : Channel)
    (error : GuardError) (record : AuditRecord) : Prop
    extends RecordsRejection request error record where
  unaccepted : Unaccepted policy request channel → NamesNobody request record
  malformed : ∀ header reason, error = .malformedHeader header reason →
    Believed policy request channel ∧ TakesForwarded request header record

/-- The record that a refusal calls for under a category. -/
def refusalRecord (request : Request) (refusal : Refusal) (category : AuditCategory) :
    AuditRecord where
  category
  action := request.action
  request := request.summary (some refusal.context)
  detail := if category = .sslException then some refusal.error.message else none

/-- A cause speaks for every rejection, with its error. -/
theorem exists_applies_of_rejected (rejected : judge policy request channel = .rejected refusal) :
    ∃ cause, Cause.Applies policy request channel cause refusal.error :=
  Cause.FirstOf.exists_applies (exists_rejected_iff.1 ⟨refusal.context, rejected⟩)

/-- A rejection for anything but a closed channel has a category. -/
theorem exists_category (rejected : judge policy request channel = .rejected refusal)
    (stillOpen : refusal.error ≠ .channelClosed) :
    ∃ category, refusal.error.category? = some category := by
  obtain ⟨cause, applies⟩ := exists_applies_of_rejected rejected
  generalize refusal.error = error at applies stillOpen
  cases applies with
  | channelClosed => exact absurd rfl stillOpen
  | channelUnsupported | reservedAction | missingCredential | malformedIdentity | malformedAddress
  | malformedOrigin | forgedHeader | backendFailure | missingAddress | unknownCaller =>
      exact ⟨_, rfl⟩

/-- Only a sender that is believed is rejected over a malformed header. -/
theorem believed_of_malformedHeader {header reason : String}
    (rejected : judge policy request channel = .rejected refusal)
    (malformed : refusal.error = .malformedHeader header reason) :
    Believed policy request channel := by
  obtain ⟨cause, applies⟩ := exists_applies_of_rejected rejected
  rw [malformed] at applies
  cases applies with
  | malformedIdentity sender | malformedAddress sender | malformedOrigin sender => exact sender

/-- A value decodes to one content. -/
theorem decoded_unique {Content : Type} {decode : String → Except HeaderValue.Fault Content}
    (value : String) (first second : Content) (left : decode value = .ok first)
    (right : decode value = .ok second) : first = second :=
  Except.ok.inj (left.symm.trans right)

variable {otherwise : Option Address}

/-- A rejection over a header leaves the origin as it was. -/
theorem RefusedForwarding.origin_eq
    (refused : RefusedForwarding policy.complaints request.headers otherwise context refusal) :
    refusal.context.origin = context.origin := by
  cases refused <;> rfl

/-- The context of a rejection over a header has the identity that is forwarded. -/
theorem RefusedForwarding.identity_iff (start : Untouched context)
    (refused : RefusedForwarding policy.complaints request.headers otherwise context refusal)
    (identity : Identity) :
    refusal.context.identity = some identity ↔
      request.headers.Conveys Headers.userName MeansIdentity (some identity) := by
  have taken {said : Option Identity}
      (conveyed : request.headers.Conveys Headers.userName MeansIdentity said) :
      (said <|> context.identity) = some identity ↔
        request.headers.Conveys Headers.userName MeansIdentity (some identity) := by
    have kept : (said <|> context.identity) = said := by
      rw [start.identity]
      cases said <;> rfl
    rw [kept]
    constructor
    · rintro rfl
      exact conveyed
    · exact conveyed.eq_some decoded_unique
  cases refused with
  | identity malformed =>
      rw [start.identity]
      exact ⟨nofun, fun conveyed => absurd malformed (identityReader.not_malformed conveyed)⟩
  | address identitySaid _ => exact taken identitySaid
  | origin identitySaid _ _ => exact taken identitySaid

/-- The address of a rejection over a header is that of the socket, unless it is the origin that is
malformed and an address is forwarded. -/
theorem RefusedForwarding.address_eq (start : Untouched context)
    (own : (otherwise <|> request.remoteAddress) = request.remoteAddress)
    (refused : RefusedForwarding policy.complaints request.headers otherwise context refusal)
    {header reason : String} (malformed : refusal.error = .malformedHeader header reason) :
    ∃ told : Option Address,
      (refusal.context.remoteAddress <|> request.remoteAddress) =
          (told <|> request.remoteAddress) ∧
        (header ≠ Headers.originName ∧ told = none ∨ header = Headers.originName ∧
          request.headers.Conveys Headers.remoteAddressName MeansAddress told) := by
  cases refused with
  | identity =>
      cases malformed
      exact ⟨none, by rw [start.remoteAddress], .inl ⟨by decide, rfl⟩⟩
  | address =>
      cases malformed
      exact ⟨none, by rw [start.remoteAddress], .inl ⟨by decide, rfl⟩⟩
  | @origin identity address reason identitySaid addressSaid _ =>
      cases malformed
      refine ⟨address, ?_, .inr ⟨rfl, addressSaid⟩⟩
      rw [start.remoteAddress]
      cases address with
      | some address => rfl
      | none =>
          cases otherwise with
          | none => rfl
          | some address => exact own

/-- A record over a malformed header takes what the headers before it say. -/
theorem RefusedForwarding.takesForwarded (start : Untouched context)
    (own : (otherwise <|> request.remoteAddress) = request.remoteAddress)
    (refused : RefusedForwarding policy.complaints request.headers otherwise context refusal)
    (category : AuditCategory) {header reason : String}
    (malformed : refusal.error = .malformedHeader header reason) :
    TakesForwarded request header (refusalRecord request refusal category) where
  user_iff user := by
    have identities := refused.identity_iff start
    simp only [refusalRecord, Request.summary, Option.bind_some, Option.map_eq_some_iff,
      identities]
    rfl
  forwarded := by
    rintro rfl address conveyed
    obtain ⟨told, same, ⟨other, _⟩ | ⟨_, said⟩⟩ := refused.address_eq start own malformed
    · exact absurd rfl other
    · rw [said.eq_some decoded_unique conveyed] at same
      exact same
  socket := by
    intro silent
    obtain ⟨told, same, ⟨_, rfl⟩ | ⟨isOrigin, said⟩⟩ := refused.address_eq start own malformed
    · exact same
    · cases told with
      | none => exact same
      | some address => exact absurd said (silent isOrigin address)

/-- The record of a rejection is an admission record. -/
theorem admissionRecord_of_judge (rejected : judge policy request channel = .rejected refusal)
    {category : AuditCategory} (categorised : refusal.error.category? = some category) :
    AdmissionRecord policy request channel refusal.error
      (refusalRecord request refusal category) where
  category := categorised
  detail := rfl
  action := rfl
  summaryAction := rfl
  requestClass := rfl
  origin := by
    have origin : refusal.context.origin = none := by
      cases rejects_of_judge rejected with
      | untouched context _ => exact context.origin
      | forwarding _ start _ refused => exact refused.origin_eq.trans start.origin
    simp [refusalRecord, Request.summary, origin]
  unaccepted unaccepted := by
    cases rejects_of_judge rejected with
    | untouched context _ =>
        constructor <;> simp [refusalRecord, Request.summary, context.identity,
          context.remoteAddress]
    | forwarding believed _ _ _ => exact absurd believed unaccepted.not_believed
  malformed header reason malformed := by
    refine ⟨believed_of_malformedHeader rejected malformed, ?_⟩
    cases rejects_of_judge rejected with
    | untouched _ sender =>
        rcases sender with closed | unaccepted
        · cases closed.symm.trans malformed
        · exact absurd (believed_of_malformedHeader rejected malformed) unaccepted.not_believed
    | forwarding _ start own refused => exact refused.takesForwarded start own category malformed

/-- An admission adds the record of its rejection to the journal, where the rejection calls for one
and the sink takes its category. -/
theorem journal_receive_of_rejected (guard : Guard)
    (rejected : judge guard.policy request channel = .rejected refusal) :
    (guard.receive request channel).1.journal =
      guard.journal ++ match refusal.error.category? with
        | some category =>
          if guard.sink.admits category then [refusalRecord request refusal category] else []
        | none => [] := by
  have judged : (course guard.policy request channel).verdict = .rejected refusal := rejected
  simp only [Guard.receive, judged, Guard.bookVerdict, Guard.bookRejection, Guard.recordError,
    AuditRecord.ofError?]
  cases refusal.error.category? with
  | none => exact (List.append_nil _).symm
  | some category =>
      simp only [Option.map_some, Guard.journal_record]
      rfl

/-- A record goes to the sink: a recorder writes it, and a filter does where it admits its
category. -/
structure GoesToSink (before after : Guard) (record : AuditRecord) : Prop where
  recorder : before.sink = .recorder → after.journal = before.journal ++ [record]
  admitted : ∀ filter, before.sink = .filtered filter → filter.admits record.category = true →
    after.journal = before.journal ++ [record]
  passedOver : ∀ filter, before.sink = .filtered filter → filter.admits record.category = false →
    after.journal = before.journal

/-- What a sink takes comes into the journal. -/
theorem goesToSink_of_journal {before after : Guard} {record : AuditRecord}
    (journal : after.journal =
      before.journal ++ if before.sink.admits record.category then [record] else []) :
    GoesToSink before after record where
  recorder sink := by
    rw [sink] at journal
    exact journal
  admitted filter sink admits := by
    rw [journal, sink, AuditSink.admits, admits, if_pos rfl]
  passedOver filter sink admits := by
    rw [journal, sink, AuditSink.admits, admits]
    exact List.append_nil _

/-- A rejected admission leaves one record, unless it is for a closed channel. -/
structure LeavesOneRecord (guard : Guard) (request : Request) (channel : Channel)
    (error : GuardError) : Prop where
  one : error ≠ .channelClosed → ∃ record,
    AdmissionRecord guard.policy request channel error record ∧
      GoesToSink guard (guard.receive request channel).1 record
  closed : error = .channelClosed →
    (guard.receive request channel).1.journal = guard.journal

/-- Every rejected admission leaves the one record that may be left of it. -/
theorem receive_audited (guard : Guard) (request : Request) (channel : Channel) (refusal : Refusal)
    (rejected : (guard.receive request channel).2 = .rejected refusal) :
    LeavesOneRecord guard request channel refusal.error where
  one stillOpen := by
    obtain ⟨category, categorised⟩ := exists_category rejected stillOpen
    have journal := journal_receive_of_rejected guard rejected
    rw [categorised] at journal
    exact ⟨refusalRecord request refusal category, admissionRecord_of_judge rejected categorised,
      goesToSink_of_journal journal⟩
  closed closed := by
    have journal := journal_receive_of_rejected guard rejected
    rw [closed] at journal
    exact journal.trans (List.append_nil _)

/-- Within the node, a user is recorded whose identity was forwarded with a malformed origin. -/
theorem receive_audited_malformed_origin :
    let guard := { (Node.start {} {}).guard with sink := .recorder }
    let channel : Channel := { type := some "direct" }
    let request : Request :=
      { action := "indices:data/read/search"
        headers := Headers.ofList [("_sg_origin_header", "NOWHERE"),
          ("_sg_user_header", HeaderValue.encodeIdentity { name := "alice" })] }
    ∃ record, (guard.receive request channel).1.journal = [record] ∧
      record.request.user = some "alice" ∧ record.request.origin = none := by
  intro guard channel request
  have identitySaid : request.headers.Conveys "_sg_user_header" MeansIdentity
      (some { name := "alice" }) :=
    .content rfl (HeaderValue.wrap_ne_empty _) (HeaderValue.decodeIdentity_encodeIdentity _)
  have addressSaid : request.headers.Conveys "_sg_remote_address_header" MeansAddress none :=
    .nothing (.inl rfl)
  have malformed : request.headers.Malformed "_sg_origin_header" FailsOrigin _ :=
    ⟨"NOWHERE", rfl, by decide, fun origin => by cases origin <;> decide, rfl⟩
  have within : FromItself channel := ⟨rfl, rfl⟩
  have rejected := @FromItself.rejected_of_refusedForwarding guard.policy _ _ _ within
    (.origin identitySaid addressSaid malformed)
  have audited := receive_audited guard request channel _ rejected
  obtain ⟨record, recorded, written⟩ := audited.one nofun
  refine ⟨record, written.recorder rfl, ?_, recorded.origin⟩
  exact ((recorded.malformed _ _ rfl).2.user_iff "alice").2 ⟨_, identitySaid, rfl⟩

end NodeGate.Admission
