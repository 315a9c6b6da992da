
/-!
# Refusals

Every reason for which a request is refused. `message` is the wording that callers see, `reason`
the label under which refusals are counted, and `category?` the one audit category under which a
refusal is recorded, if any.
-/

namespace NodeGate

/-- The categories of audit records. -/
inductive AuditCategory where
  | missingPrivileges
  | sslException
  | badHeaders
  | protectedIndexAttempt
  deriving DecidableEq, Repr

namespace AuditCategory

/-- Every category. -/
def all : List AuditCategory :=
  [.missingPrivileges, .sslException, .badHeaders, .protectedIndexAttempt]

/-- The name of a category in records and settings. -/
def name : AuditCategory → String
  | .missingPrivileges => "MISSING_PRIVILEGES"
  | .sslException => "SSL_EXCEPTION"
  | .badHeaders => "BAD_HEADERS"
  | .protectedIndexAttempt => "SG_INDEX_ATTEMPT"

/-- Texts that differ at most in the case of ASCII letters. -/
def sameLetters (left right : String) : Bool :=
  left.toList.map Char.toLower = right.toList.map Char.toLower

/-- The category that a text names, in any letter case. -/
def ofName? (name : String) : Option AuditCategory :=
  all.find? fun category => sameLetters category.name name

/-- What is said of a text that names no category. -/
def unknownMessage (name : String) : String :=
  "unknown audit category '" ++ name ++ "'"

end AuditCategory

/-- Why a request was refused. Each refusal ends its request. -/
inductive GuardError where
  /-- The kind of channel is missing or unknown. -/
  | channelUnsupported (type : String)
  /-- An internal or shard action came from a peer that is no node. -/
  | internalActionForbidden (action : String)
  /-- The channel has no verified principal. -/
  | missingCredential (channel : String)
  /-- A caller that is no node sent a private header. -/
  | forgedIdentityHeader (header : String)
  /-- A header forwarded by a node does not decode. -/
  | malformedHeader (header reason : String)
  /-- The backend does not know the caller. -/
  | authenticationFailed (action : String)
  /-- The backend itself failed. -/
  | authenticatorFailure (failure : String)
  /-- An authenticated caller has no socket address. -/
  | missingRemoteAddress
  /-- The action would change the protected index. -/
  | protectedResourceDenied (action index : String)
  /-- A cursor was continued by someone other than its creator. -/
  | cursorOwnershipMismatch
  /-- A cursor has no owner to compare with. -/
  | noCursorOwner
  /-- The channel closed before the request was done. -/
  | channelClosed
  /-- The business handler failed. -/
  | handler (text : String)
  deriving DecidableEq, Repr

namespace GuardError

/-- The wording of a refusal. -/
def message : GuardError → String
  | .channelUnsupported type => "unsupported transport channel type: " ++ type
  | .internalActionForbidden action =>
    "internal or shard requests not allowed from a non-server node (" ++ action ++ ")"
  | .missingCredential channel =>
    "no client certificate principal found for transport type " ++ channel
  | .forgedIdentityHeader header => "illegal parameter in header: " ++ header
  | .malformedHeader header reason => "malformed header " ++ header ++ ": " ++ reason
  | .authenticationFailed action => "cannot authenticate request for " ++ action
  | .authenticatorFailure failure => "authentication backend failure: " ++ failure
  | .missingRemoteAddress => "request has no proper remote address"
  | .protectedResourceDenied action index =>
    action ++ " on '" ++ index ++ "' is not allowed for a regular user"
  | .cursorOwnershipMismatch => "forbidden"
  | .noCursorOwner => "no user in scroll context"
  | .channelClosed => "transport channel closed"
  | .handler text => text

/-- The label under which a refusal is counted. -/
def reason : GuardError → String
  | .channelUnsupported _ => "channel_unsupported"
  | .internalActionForbidden _ => "internal_action_forbidden"
  | .missingCredential _ => "missing_credential"
  | .forgedIdentityHeader _ => "forged_identity_header"
  | .malformedHeader _ _ => "malformed_header"
  | .authenticationFailed _ => "authentication_failed"
  | .authenticatorFailure _ => "authenticator_failure"
  | .missingRemoteAddress => "missing_remote_address"
  | .protectedResourceDenied _ _ => "protected_resource_denied"
  | .cursorOwnershipMismatch => "cursor_ownership_mismatch"
  | .noCursorOwner => "no_cursor_owner"
  | .channelClosed => "channel_closed"
  | .handler _ => "handler"

/-- The category under which a refusal is recorded. A closed channel and a failed handler are not
recorded. -/
def category? : GuardError → Option AuditCategory
  | .internalActionForbidden _ | .authenticationFailed _ | .authenticatorFailure _
  | .missingRemoteAddress | .cursorOwnershipMismatch | .noCursorOwner => some .missingPrivileges
  | .channelUnsupported _ | .missingCredential _ => some .sslException
  | .forgedIdentityHeader _ | .malformedHeader _ _ => some .badHeaders
  | .protectedResourceDenied _ _ => some .protectedIndexAttempt
  | .channelClosed | .handler _ => none

end GuardError

end NodeGate
