import NodeGate.Config.Settings
import NodeGate.DistinguishedName
import NodeGate.Identity

/-!
# Authentication

A backend tells who a verified principal is. `PrincipalTable` is the backend that is built from
settings: it maps principals in normalised spelling to identities, and a later mapping of the
same principal replaces an earlier one. A few actions may run for callers nobody knows.
-/

namespace NodeGate

/-- A failure inside a backend. -/
inductive BackendFailure where
  /-- The backend could not be reached. -/
  | unavailable (detail : String)
  /-- Any other fault. -/
  | backend (detail : String)
  deriving DecidableEq, Repr

/-- The wording of a failure. -/
def BackendFailure.message : BackendFailure → String
  | .unavailable detail => "authentication backend unavailable: " ++ detail
  | .backend detail => "authentication backend error: " ++ detail

/-- What a backend answers about a principal. -/
inductive BackendAnswer where
  | known (identity : Identity)
  | unknown
  | failed (failure : BackendFailure)
  /-- No answer comes. -/
  | pending
  deriving DecidableEq, Repr

/-- The actions that may run without an identity, by exact name. -/
def unauthenticatedActions : List String :=
  ["cluster:monitor/nodes/liveness", "internal:transport/handshake",
    "cluster:admin/searchguard/whoami"]

/-- Whether an action may run without an identity. -/
def isUnauthenticatedAction (action : String) : Bool :=
  unauthenticatedActions.contains action

/-- The identities of principals in normalised spelling. -/
structure PrincipalTable where
  identities : NameMap Identity
  deriving DecidableEq, Repr

namespace PrincipalTable

/-- The entry of one mapping. -/
def entry (mapping : PrincipalSettings) : String × Identity :=
  (DistinguishedName.normalize mapping.dn,
    Identity.withBackendRoles { name := mapping.user } mapping.backendRoles)

/-- The table that settings ask for. -/
def ofSettings (settings : AuthenticationSettings) : PrincipalTable :=
  ⟨NameMap.ofList (settings.principals.map entry)⟩

/-- How many principals are known. -/
def size (table : PrincipalTable) : Nat :=
  table.identities.size

/-- The identity of a principal in any spelling. -/
def identity? (table : PrincipalTable) (principal : String) : Option Identity :=
  table.identities.get? (DistinguishedName.normalize principal)

/-- What the table answers about a principal. -/
def answer (table : PrincipalTable) (principal : String) : BackendAnswer :=
  match table.identity? principal with
  | some identity => .known identity
  | none => .unknown

end PrincipalTable

end NodeGate
