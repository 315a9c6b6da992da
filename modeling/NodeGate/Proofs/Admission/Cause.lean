import NodeGate.Proofs.Admission.Malformed
import NodeGate.Proofs.Admission.Untrusted

/-!
# Causes of rejection

Several causes can speak against a request at once. `Cause.Applies` says when each of them does,
whatever the others do, and with which error (`Cause.Applies.unique`). `Cause.precedence` puts them
in order, and `Cause.FirstOf` is the error of the first one that applies. Who sent the request
limits which causes can apply at all.
-/

namespace NodeGate.Admission

/-- The causes for which a request is rejected. -/
inductive Cause where
  | channelClosed
  | channelUnsupported
  | reservedAction
  | missingCredential
  | malformedIdentity
  | malformedAddress
  | malformedOrigin
  | forgedHeader
  | backendFailure
  | missingAddress
  | unknownCaller
  deriving DecidableEq, Repr

/-- The peer of a network channel is not recognised as a node; one that was not verified never
is. -/
structure Unrecognised (policy : Policy) (request : Request) (channel : Channel) : Prop where
  network : channel.type = some "netty"
  unrecognised : ∀ principal, channel.principal = some principal →
    policy.recognises request channel.localCertificates channel.peerCertificates principal = false

/-- The sender's headers are believed: it is the node itself or a recognised node. -/
inductive Believed (policy : Policy) (request : Request) (channel : Channel) : Prop where
  | within (direct : channel.type = some "direct")
  | node {principal : String} (network : channel.type = some "netty")
      (verified : channel.principal = some principal)
      (recognised : policy.recognises request channel.localCertificates channel.peerCertificates
        principal = true)

/-- A peer that is not recognised is not believed. -/
theorem Unrecognised.not_believed {policy : Policy} {request : Request} {channel : Channel}
    (peer : Unrecognised policy request channel) : ¬ Believed policy request channel := by
  intro believed
  have network := peer.network
  cases believed with
  | within direct => simp [direct] at network
  | node _ verified recognised => simp [peer.unrecognised _ verified] at recognised

namespace Cause

/-- The causes in the order in which they count. -/
def precedence : List Cause :=
  [.channelClosed, .channelUnsupported, .reservedAction, .missingCredential, .malformedIdentity,
    .malformedAddress, .malformedOrigin, .forgedHeader, .backendFailure, .missingAddress,
    .unknownCaller]

/-- When a cause speaks against a request, and with which error. -/
inductive Applies (policy : Policy) (request : Request) (channel : Channel) :
    Cause → GuardError → Prop where
  | channelClosed (closed : channel.isClosed = true) :
      Applies policy request channel .channelClosed .channelClosed
  | channelUnsupported (notDirect : channel.type ≠ some "direct")
      (notNetwork : channel.type ≠ some "netty") :
      Applies policy request channel .channelUnsupported
        (.channelUnsupported (channel.type.getD "<none>"))
  | reservedAction (peer : Unrecognised policy request channel)
      (reserved : ¬ OpenToAll request.action) :
      Applies policy request channel .reservedAction (.internalActionForbidden request.action)
  | missingCredential (network : channel.type = some "netty")
      (unverified : channel.principal = none) :
      Applies policy request channel .missingCredential (.missingCredential "netty")
  | malformedIdentity {reason : String} (sender : Believed policy request channel)
      (malformed :
        request.headers.Malformed "_sg_user_header" (FailsIdentity policy.complaints) reason) :
      Applies policy request channel .malformedIdentity
        (.malformedHeader "_sg_user_header" reason)
  | malformedAddress {reason : String} (sender : Believed policy request channel)
      (malformed : request.headers.Malformed "_sg_remote_address_header"
        (FailsAddress policy.complaints) reason) :
      Applies policy request channel .malformedAddress
        (.malformedHeader "_sg_remote_address_header" reason)
  | malformedOrigin {reason : String} (sender : Believed policy request channel)
      (malformed : request.headers.Malformed "_sg_origin_header" FailsOrigin reason) :
      Applies policy request channel .malformedOrigin
        (.malformedHeader "_sg_origin_header" reason)
  | forgedHeader {name : String} (peer : Unrecognised policy request channel)
      (carried : request.headers.LeastPrivate name) :
      Applies policy request channel .forgedHeader (.forgedIdentityHeader name)
  | backendFailure {principal : String} {failure : BackendFailure}
      (peer : Unrecognised policy request channel)
      (verified : channel.principal = some principal)
      (answered : policy.authenticate request principal request.action = .failed failure) :
      Applies policy request channel .backendFailure (.authenticatorFailure failure.message)
  | missingAddress {principal : String} {identity : Identity}
      (peer : Unrecognised policy request channel)
      (verified : channel.principal = some principal)
      (answered : policy.authenticate request principal request.action = .known identity)
      (unreachable : request.remoteAddress = none) :
      Applies policy request channel .missingAddress .missingRemoteAddress
  | unknownCaller {principal : String} (peer : Unrecognised policy request channel)
      (verified : channel.principal = some principal)
      (answered : policy.authenticate request principal request.action = .unknown)
      (unlisted : request.action ∉ ["cluster:monitor/nodes/liveness",
        "internal:transport/handshake", "cluster:admin/searchguard/whoami"]) :
      Applies policy request channel .unknownCaller (.authenticationFailed request.action)

/-- The error of the first cause of a list that applies. -/
inductive FirstOf (Applies : Cause → GuardError → Prop) : List Cause → GuardError → Prop where
  | here {cause : Cause} {later : List Cause} {error : GuardError}
      (applies : Applies cause error) : FirstOf Applies (cause :: later) error
  | later {cause : Cause} {later : List Cause} {error : GuardError}
      (silent : ∀ other, ¬ Applies cause other) (first : FirstOf Applies later error) :
      FirstOf Applies (cause :: later) error

section FirstOf

variable {Applies : Cause → GuardError → Prop} {cause : Cause} {later : List Cause}
  {error : GuardError}

/-- Of no causes none is first. -/
theorem not_firstOf_nil : ¬ FirstOf Applies [] error := by
  rintro ⟨⟩

/-- A cause that does not apply does not come first. -/
theorem firstOf_cons_of_silent (silent : ∀ other, ¬ Applies cause other) :
    FirstOf Applies (cause :: later) error ↔ FirstOf Applies later error := by
  constructor
  · intro first
    cases first with
    | here applies => exact absurd applies (silent error)
    | later _ first => exact first
  · intro first
    exact .later silent first

/-- A cause that applies with one error leaves the later ones no say. -/
theorem firstOf_cons_of_applies {own : GuardError} (applies : Applies cause own)
    (unique : ∀ other, Applies cause other → other = own) :
    FirstOf Applies (cause :: later) error ↔ error = own := by
  constructor
  · intro first
    cases first with
    | here applies => exact unique error applies
    | later silent first => exact absurd applies (silent own)
  · rintro rfl
    exact .here applies

/-- Causes that cannot apply can be left out of the order. -/
theorem firstOf_filter {possible : Cause → Bool}
    (only : ∀ cause error, Applies cause error → possible cause = true) (causes : List Cause) :
    FirstOf Applies (causes.filter possible) error ↔ FirstOf Applies causes error := by
  induction causes with
  | nil => rfl
  | cons cause later inductionHypothesis =>
      cases chosen : possible cause with
      | false =>
          have silent : ∀ other, ¬ Applies cause other := by
            intro other applies
            simp [only cause other applies] at chosen
          rw [List.filter_cons, chosen, firstOf_cons_of_silent silent]
          exact inductionHypothesis
      | true =>
          rw [List.filter_cons, chosen, if_pos rfl]
          constructor
          · intro first
            cases first with
            | here applies => exact .here applies
            | later silent first => exact .later silent (inductionHypothesis.1 first)
          · intro first
            cases first with
            | here applies => exact .here applies
            | later silent first => exact .later silent (inductionHypothesis.2 first)

/-- The first cause applies. -/
theorem FirstOf.exists_applies (first : FirstOf Applies later error) :
    ∃ cause, Applies cause error := by
  induction first with
  | here applies => exact ⟨_, applies⟩
  | later _ _ inductionHypothesis => exact inductionHypothesis

end FirstOf

variable {policy : Policy} {request : Request} {channel : Channel} {principal : String}
  {cause : Cause} {error : GuardError}

/-- A cause speaks against a request with one error. -/
theorem Applies.unique {other : GuardError} (left : cause.Applies policy request channel error)
    (right : cause.Applies policy request channel other) : error = other := by
  cases left with
  | channelClosed => cases right; rfl
  | channelUnsupported => cases right; rfl
  | reservedAction => cases right; rfl
  | missingCredential => cases right; rfl
  | malformedIdentity sender malformed =>
      cases right with
      | malformedIdentity _ malformed' =>
          rw [identityReader.malformed_unique malformed malformed']
  | malformedAddress sender malformed =>
      cases right with
      | malformedAddress _ malformed' =>
          rw [addressReader.malformed_unique malformed malformed']
  | malformedOrigin sender malformed =>
      cases right with
      | malformedOrigin _ malformed' => rw [originReader.malformed_unique malformed malformed']
  | forgedHeader peer carried =>
      cases right with
      | forgedHeader _ carried' => rw [carried.eq carried']
  | backendFailure peer verified answered =>
      cases right with
      | backendFailure _ verified' answered' =>
          cases verified.symm.trans verified'
          cases answered.symm.trans answered'
          rfl
  | missingAddress => cases right; rfl
  | unknownCaller => cases right; rfl

/-- An action that is open to all is no cause. -/
theorem not_reservedAction_of_openToAll (openToAll : OpenToAll request.action) :
    ∀ error, ¬ Applies policy request channel .reservedAction error := by
  intro error applies
  cases applies with
  | reservedAction _ reserved => exact reserved openToAll

/-- Against a sender that is believed only malformed headers can speak. -/
theorem Applies.of_believed (applies : cause.Applies policy request channel error)
    (isOpen : channel.isClosed = false) (believed : Believed policy request channel) :
    cause ∈ [.malformedIdentity, .malformedAddress, .malformedOrigin] := by
  cases applies with
  | channelClosed closed => simp [isOpen] at closed
  | channelUnsupported notDirect notNetwork =>
      cases believed with
      | within direct => exact absurd direct notDirect
      | node network => exact absurd network notNetwork
  | missingCredential network unverified =>
      cases believed with
      | within direct => simp [direct] at network
      | node _ verified => simp [unverified] at verified
  | reservedAction peer | forgedHeader peer | backendFailure peer | missingAddress peer
  | unknownCaller peer => exact absurd believed peer.not_believed
  | malformedIdentity | malformedAddress | malformedOrigin => decide

/-- Against a verified caller that is no node speak the action, private headers and the answer of
the backend. -/
theorem Applies.of_unrecognised (applies : cause.Applies policy request channel error)
    (isOpen : channel.isClosed = false) (peer : Unrecognised policy request channel)
    (verified : channel.principal = some principal) :
    cause ∈ [.reservedAction, .forgedHeader, .backendFailure, .missingAddress, .unknownCaller] := by
  cases applies with
  | channelClosed closed => simp [isOpen] at closed
  | channelUnsupported _ notNetwork => exact absurd peer.network notNetwork
  | missingCredential _ unverified => simp [verified] at unverified
  | malformedIdentity sender | malformedAddress sender | malformedOrigin sender =>
      exact absurd sender peer.not_believed
  | reservedAction | forgedHeader | backendFailure | missingAddress | unknownCaller => decide

/-- Against a peer that was not verified speak the action, that very thing and private headers. -/
theorem Applies.of_unverified (applies : cause.Applies policy request channel error)
    (isOpen : channel.isClosed = false) (peer : Unrecognised policy request channel)
    (unverified : channel.principal = none) :
    cause ∈ [.reservedAction, .missingCredential, .forgedHeader] := by
  cases applies with
  | channelClosed closed => simp [isOpen] at closed
  | channelUnsupported _ notNetwork => exact absurd peer.network notNetwork
  | malformedIdentity sender | malformedAddress sender | malformedOrigin sender =>
      exact absurd sender peer.not_believed
  | backendFailure _ verified | missingAddress _ verified | unknownCaller _ verified =>
      simp [unverified] at verified
  | reservedAction | missingCredential | forgedHeader => decide

/-- Against a request on an open channel of another kind speaks the kind. -/
theorem Applies.of_unsupported (applies : cause.Applies policy request channel error)
    (isOpen : channel.isClosed = false) (notDirect : channel.type ≠ some "direct")
    (notNetwork : channel.type ≠ some "netty") : cause ∈ [.channelUnsupported] := by
  have notBelieved : ¬ Believed policy request channel := by
    rintro (direct | network)
    · exact notDirect direct
    · exact notNetwork network
  cases applies with
  | channelClosed closed => simp [isOpen] at closed
  | channelUnsupported => decide
  | missingCredential network => exact absurd network notNetwork
  | malformedIdentity sender | malformedAddress sender | malformedOrigin sender =>
      exact absurd sender notBelieved
  | reservedAction peer | forgedHeader peer | backendFailure peer | missingAddress peer
  | unknownCaller peer => exact absurd peer.network notNetwork

/-- The causes that an answer of the backend can give rise to. -/
def ofAnswer : BackendAnswer → List Cause
  | .known _ => [.missingAddress]
  | .unknown => [.unknownCaller]
  | .failed _ => [.backendFailure]
  | .pending => []

/-- Against a caller that may ask, and that forged nothing, speaks only what the backend answers. -/
theorem Applies.of_answer (applies : cause.Applies policy request channel error)
    (isOpen : channel.isClosed = false) (peer : Unrecognised policy request channel)
    (verified : channel.principal = some principal) (openToAll : OpenToAll request.action)
    (unforged : request.headers.firstPrivate? = none) :
    cause ∈ ofAnswer (policy.authenticate request principal request.action) := by
  cases applies with
  | channelClosed closed => simp [isOpen] at closed
  | channelUnsupported _ notNetwork => exact absurd peer.network notNetwork
  | reservedAction _ reserved => exact absurd openToAll reserved
  | missingCredential _ unverified => simp [verified] at unverified
  | malformedIdentity sender | malformedAddress sender | malformedOrigin sender =>
      exact absurd sender peer.not_believed
  | forgedHeader _ carried =>
      exact absurd carried.toHasPrivate (Headers.firstPrivate?_eq_none_iff_forall.1 unforged _)
  | backendFailure _ verified' answered | missingAddress _ verified' answered
  | unknownCaller _ verified' answered =>
      cases verified.symm.trans verified'
      rw [answered]
      exact List.mem_singleton_self _

end Cause

end NodeGate.Admission
