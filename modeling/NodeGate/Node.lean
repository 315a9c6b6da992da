import NodeGate.Guard
import NodeGate.Recognition

/-!
# A guarded node

The guard that settings ask for, and the reload of settings while it runs. A reload replaces how
nodes are recognised, who principals are and which audit records are written; the cluster name,
the protected index and what operators see stay as they were at the start. Cursors, requests
under way and the books are not touched.
-/

namespace NodeGate

/-- A guard with the settings it was started with. -/
structure Node where
  started : Settings
  guard : Guard

namespace Node

/-- The policy of a cluster under transport and authentication settings. -/
def policy (complaints : HeaderValue.Complaints) (cluster : String) (transport : TransportSettings)
    (authentication : AuthenticationSettings) : Admission.Policy where
  clusterName := cluster
  recognises _ _ peerCertificates principal :=
    (NodeRecognition.ofSettings transport).recognises peerCertificates principal
  authenticate _ principal _ := (PrincipalTable.ofSettings authentication).answer principal
  complaints

/-- The guard that settings ask for. -/
def start (complaints : HeaderValue.Complaints) (settings : Settings) : Node where
  started := settings
  guard :=
    { policy :=
        policy complaints settings.cluster.name settings.transport settings.authentication
      sink := .filtered (AuditFilter.ofSettings settings.audit)
      protection := ProtectedIndex.ofSettings settings.protectedIndex }

/-- Take over new settings as far as they can change while the guard runs, and name those that
differ and cannot. -/
def reload (node : Node) (settings : Settings) : Node × List String :=
  ({ node with
      guard :=
        { node.guard with
          policy :=
            policy node.guard.policy.complaints node.guard.clusterName settings.transport
              settings.authentication
          sink := .filtered (AuditFilter.ofSettings settings.audit) } },
    node.started.ignoredChanges settings)

/-- What can happen to a guarded node. -/
inductive Event where
  | operation (operation : Guard.Operation)
  | reload (settings : Settings)

/-- What comes of an event. -/
inductive Outcome where
  | response (response : Guard.Response)
  | ignored (changes : List String)

/-- One event. -/
def step (node : Node) : Event → Node × Outcome
  | .operation operation =>
    let (guard, response) := node.guard.perform operation
    ({ node with guard }, .response response)
  | .reload settings =>
    let (node, changes) := node.reload settings
    (node, .ignored changes)

/-- The node after a run of events. -/
def run (node : Node) (events : List Event) : Node :=
  events.foldl (fun node event => (node.step event).1) node

end Node

end NodeGate
