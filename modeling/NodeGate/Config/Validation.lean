import NodeGate.Address
import NodeGate.Config.Settings
import NodeGate.GuardError
import NodeGate.Text.Blank
import NodeGate.Text.Split

/-!
# Validation

Settings that read well may still make no sense. `Settings.problems` lists every violated rule
with the field where it is violated, section by section and by rising position; settings are valid
when the list is empty. The problems of a section depend on that section alone.
-/

namespace NodeGate

/-- A violated rule. -/
structure Problem where
  field : String
  message : String
  deriving DecidableEq, Repr

/-- The line that states a problem. -/
def Problem.text (problem : Problem) : String :=
  problem.field ++ ": " ++ problem.message

/-- The message about a text that is missing or blank. -/
def Problem.emptyMessage : String := "must not be empty"

/-- The problem of a field that has to say something, if it does not. -/
def Problem.ofBlank (field text : String) : List Problem :=
  if Text.isAllBlank text then [⟨field, emptyMessage⟩] else []

/-- A field with the position of an item in it. -/
def Problem.itemField (field : String) (position : Nat) : String :=
  field ++ "[" ++ toString position ++ "]"

/-- The cluster has a name. -/
def ClusterSettings.problems (settings : ClusterSettings) : List Problem :=
  Problem.ofBlank "cluster.name" settings.name

/-- Whether a name means one index: it holds no pattern sign and no comma and excludes nothing. -/
def ProtectedIndexSettings.isConcrete (name : String) : Bool :=
  !(name.toList.any fun char => char = '*' || char = '?' || char = ',') &&
    name.toList.head? ≠ some '-'

/-- The protected index has a name that means one index. -/
def ProtectedIndexSettings.problems (settings : ProtectedIndexSettings) : List Problem :=
  if Text.isAllBlank settings.name then [⟨"protected_index.name", Problem.emptyMessage⟩]
  else if isConcrete settings.name then []
  else [⟨"protected_index.name", "'" ++ settings.name ++ "' must be a concrete index name"⟩]

/-- Whether a text is an object identifier: numbers with points between them. -/
def TransportSettings.isOid (text : String) : Bool :=
  (Text.split '.' text.toList).all fun arc => !arc.isEmpty && arc.all Char.isDigit

/-- The patterns of nodes say something, and the marker is an object identifier. -/
def TransportSettings.problems (settings : TransportSettings) : List Problem :=
  settings.nodesDn.zipIdx.flatMap (fun (dn, position) =>
    Problem.ofBlank (Problem.itemField "transport.nodes_dn" position) dn) ++
  match settings.certificateOid with
  | some oid =>
    if isOid oid then []
    else [⟨"transport.certificate_oid", "'" ++ oid ++ "' is not a dotted numeric OID"⟩]
  | none => []

/-- The problems of a principal at a position, after principals with the given names. -/
def PrincipalSettings.problems (position : Nat) (earlier : List String)
    (settings : PrincipalSettings) : List Problem :=
  let field := Problem.itemField "authentication.principals" position
  (if Text.isAllBlank settings.dn then [⟨field ++ ".dn", Problem.emptyMessage⟩]
    else if settings.dn ∈ earlier then
      [⟨field ++ ".dn", "duplicate principal '" ++ settings.dn ++ "'"⟩]
    else []) ++
  Problem.ofBlank (field ++ ".user") settings.user

/-- The problems of principals from a position on. -/
def AuthenticationSettings.problemsFrom (position : Nat) (earlier : List String) :
    List PrincipalSettings → List Problem
  | [] => []
  | principal :: rest =>
    principal.problems position earlier ++
      problemsFrom (position + 1) (principal.dn :: earlier) rest

/-- Every principal has a name and a user, and no name is mapped twice. -/
def AuthenticationSettings.problems (settings : AuthenticationSettings) : List Problem :=
  problemsFrom 0 [] settings.principals

/-- Every disabled category exists. -/
def AuditSettings.problems (settings : AuditSettings) : List Problem :=
  settings.disabledCategories.flatMap fun name =>
    if (AuditCategory.ofName? name).isSome then []
    else [⟨"audit.disabled_categories", AuditCategory.unknownMessage name⟩]

/-- The address of the metrics is one, where metrics are wanted. -/
def ObservabilitySettings.problems (settings : ObservabilitySettings) : List Problem :=
  if settings.metricsEnabled ∧ Address.read settings.metricsAddress = none then
    [⟨"observability.metrics_address",
      "'" ++ settings.metricsAddress ++ "' is not a socket address"⟩]
  else []

/-- Every problem of the settings. -/
def Settings.problems (settings : Settings) : List Problem :=
  settings.cluster.problems ++ settings.protectedIndex.problems ++
    settings.transport.problems ++ settings.authentication.problems ++
    settings.audit.problems ++ settings.observability.problems

/-- Settings are valid when no rule is violated. -/
def Settings.isValid (settings : Settings) : Bool :=
  settings.problems.isEmpty

end NodeGate
