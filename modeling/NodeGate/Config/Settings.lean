/-!
# Settings

The settings of a guard in six sections. Every field has a default except the name and the user
of a principal. `Settings.ignoredChanges` names the fields that are read once at the start, in
which a later version differs.
-/

namespace NodeGate

/-- The local cluster. -/
structure ClusterSettings where
  name : String := "cluster"
  deriving DecidableEq, Repr

/-- How nodes are recognised. -/
structure TransportSettings where
  /-- Patterns of the names of node certificates. -/
  nodesDn : List String := []
  /-- The extension that marks a node certificate. -/
  certificateOid : Option String := none
  deriving DecidableEq, Repr

/-- The protected index. Read once at the start. -/
structure ProtectedIndexSettings where
  name : String := ".sg-config"
  /-- Take the index out of a denied request instead of refusing the request. -/
  filterMode : Bool := false
  /-- The deployment can restore the index. -/
  restoreEnabled : Bool := false
  deriving DecidableEq, Repr

/-- The identity of one certificate principal. -/
structure PrincipalSettings where
  dn : String
  user : String
  backendRoles : List String := []
  deriving DecidableEq, Repr

/-- The principals that are known. -/
structure AuthenticationSettings where
  principals : List PrincipalSettings := []
  deriving DecidableEq, Repr

/-- Which audit records are written. -/
structure AuditSettings where
  enabled : Bool := true
  disabledCategories : List String := []
  deriving DecidableEq, Repr

/-- The form of log lines. -/
inductive LogFormat where
  | pretty
  | json
  deriving DecidableEq, Repr

/-- The name of a log format in settings. -/
def LogFormat.name : LogFormat → String
  | .pretty => "pretty"
  | .json => "json"

/-- The log format of a name. -/
def LogFormat.ofName? (name : String) : Option LogFormat :=
  if name = "pretty" then some .pretty
  else if name = "json" then some .json
  else none

/-- What operators see. Read once at the start. -/
structure ObservabilitySettings where
  logLevel : String := "info"
  logFormat : LogFormat := .pretty
  metricsEnabled : Bool := false
  metricsAddress : String := "127.0.0.1:9090"
  deriving DecidableEq, Repr

/-- All settings of a guard. -/
structure Settings where
  cluster : ClusterSettings := {}
  transport : TransportSettings := {}
  protectedIndex : ProtectedIndexSettings := {}
  authentication : AuthenticationSettings := {}
  audit : AuditSettings := {}
  observability : ObservabilitySettings := {}
  deriving DecidableEq, Repr

namespace Settings

/-- The names of the settings that are read once at the start and differ between two versions. -/
def ignoredChanges (started current : Settings) : List String :=
  (if started.cluster.name = current.cluster.name then [] else ["cluster.name"]) ++
  (if started.protectedIndex.name = current.protectedIndex.name then []
    else ["protected_index.name"]) ++
  (if started.protectedIndex.filterMode = current.protectedIndex.filterMode then []
    else ["protected_index.filter_mode"]) ++
  (if started.protectedIndex.restoreEnabled = current.protectedIndex.restoreEnabled then []
    else ["protected_index.restore_enabled"]) ++
  (if started.observability = current.observability then [] else ["observability"])

end Settings

end NodeGate
