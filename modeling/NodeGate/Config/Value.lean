import NodeGate.Config.Settings

/-!
# Written settings

Settings are written as nested tables of values. `Settings.ofValue?` reads them from a value and
`Settings.toValue` writes them with every field. A section may be a table of its fields by name or
a list of them in order; fields that are missing take their defaults and names that mean nothing
are passed over. The formats that settings are written in differ in two small points, which a
`Dialect` states.
-/

namespace NodeGate

/-- A value in written settings. No setting holds a number, so a number keeps nothing. -/
inductive Value where
  | null
  | bool (value : Bool)
  | number
  | text (value : String)
  | list (items : List Value)
  | table (entries : List (String × Value))
  deriving Inhabited

namespace Value

/-- Where formats differ. -/
structure Dialect where
  /-- A list may be longer than the section that it writes. -/
  allowsSurplus : Bool
  /-- What may stand beside a name that is written as the key of a table. -/
  isEmptyMark : Value → Bool

/-- In JSON a list that is too long is refused, and null stands beside a name. -/
def jsonDialect : Dialect where
  allowsSurplus := false
  isEmptyMark
    | .null => true
    | _ => false

/-- In TOML a list may be too long, and an empty table or array stands beside a name. -/
def tomlDialect : Dialect where
  allowsSurplus := true
  isEmptyMark
    | .list [] | .table [] => true
    | _ => false

/-- What a table holds under a name. -/
def lookup (name : String) : List (String × Value) → Option Value
  | [] => none
  | (other, value) :: rest => if other = name then some value else lookup name rest

/-- The fields of a section in the order of the given names: what is written for each, if
anything. -/
def fields (dialect : Dialect) (names : List String) : Value → Option (List (Option Value))
  | .table entries => some (names.map (lookup · entries))
  | .list items =>
    if items.length ≤ names.length ∨ dialect.allowsSurplus then
      some ((List.range names.length).map (items[·]?))
    else none
  | _ => none

/-- A text. -/
def text? : Value → Option String
  | .text value => some value
  | _ => none

/-- A flag. -/
def bool? : Value → Option Bool
  | .bool value => some value
  | _ => none

/-- A list of items of one kind. -/
def list? {Content : Type} (item? : Value → Option Content) : Value → Option (List Content)
  | .list items => items.mapM item?
  | _ => none

/-- A text that may be null. -/
def optionalText? : Value → Option (Option String)
  | .null => some none
  | .text value => some (some value)
  | _ => none

/-- A field that takes its default where nothing is written. -/
def orDefault {Content : Type} (default : Content) (read : Value → Option Content) :
    Option Value → Option Content
  | some value => read value
  | none => some default

/-- A name out of a fixed set, written as a text or as the only key of a table. -/
def name? {Content : Type} (dialect : Dialect) (ofName? : String → Option Content) :
    Value → Option Content
  | .text name => ofName? name
  | .table [(name, mark)] => if dialect.isEmptyMark mark then ofName? name else none
  | _ => none

end Value

open Value

/-- The cluster section of a value. -/
def ClusterSettings.ofValue? (dialect : Dialect) (value : Value) : Option ClusterSettings := do
  match ← value.fields dialect ["name"] with
  | [name] => return { name := ← orDefault "cluster" text? name }
  | _ => none

/-- The transport section of a value. -/
def TransportSettings.ofValue? (dialect : Dialect) (value : Value) :
    Option TransportSettings := do
  match ← value.fields dialect ["nodes_dn", "certificate_oid"] with
  | [nodesDn, certificateOid] =>
    return {
      nodesDn := ← orDefault [] (list? text?) nodesDn
      certificateOid := ← orDefault none optionalText? certificateOid }
  | _ => none

/-- The section of the protected index of a value. -/
def ProtectedIndexSettings.ofValue? (dialect : Dialect) (value : Value) :
    Option ProtectedIndexSettings := do
  match ← value.fields dialect ["name", "filter_mode", "restore_enabled"] with
  | [name, filterMode, restoreEnabled] =>
    return {
      name := ← orDefault ".sg-config" text? name
      filterMode := ← orDefault false bool? filterMode
      restoreEnabled := ← orDefault false bool? restoreEnabled }
  | _ => none

/-- One principal of a value. Its name and its user have to be written. -/
def PrincipalSettings.ofValue? (dialect : Dialect) (value : Value) :
    Option PrincipalSettings := do
  match ← value.fields dialect ["dn", "user", "backend_roles"] with
  | [some dn, some user, backendRoles] =>
    return {
      dn := ← text? dn
      user := ← text? user
      backendRoles := ← orDefault [] (list? text?) backendRoles }
  | _ => none

/-- The authentication section of a value. -/
def AuthenticationSettings.ofValue? (dialect : Dialect) (value : Value) :
    Option AuthenticationSettings := do
  match ← value.fields dialect ["principals"] with
  | [principals] =>
    return { principals := ← orDefault [] (list? (PrincipalSettings.ofValue? dialect)) principals }
  | _ => none

/-- The audit section of a value. -/
def AuditSettings.ofValue? (dialect : Dialect) (value : Value) : Option AuditSettings := do
  match ← value.fields dialect ["enabled", "disabled_categories"] with
  | [enabled, disabledCategories] =>
    return {
      enabled := ← orDefault true bool? enabled
      disabledCategories := ← orDefault [] (list? text?) disabledCategories }
  | _ => none

/-- The observability section of a value. -/
def ObservabilitySettings.ofValue? (dialect : Dialect) (value : Value) :
    Option ObservabilitySettings := do
  match ← value.fields dialect
      ["log_level", "log_format", "metrics_enabled", "metrics_address"] with
  | [logLevel, logFormat, metricsEnabled, metricsAddress] =>
    return {
      logLevel := ← orDefault "info" text? logLevel
      logFormat := ← orDefault .pretty (name? dialect LogFormat.ofName?) logFormat
      metricsEnabled := ← orDefault false bool? metricsEnabled
      metricsAddress := ← orDefault "127.0.0.1:9090" text? metricsAddress }
  | _ => none

/-- The settings of a value. -/
def Settings.ofValue? (dialect : Dialect) (value : Value) : Option Settings := do
  match ← value.fields dialect
      ["cluster", "transport", "protected_index", "authentication", "audit",
        "observability"] with
  | [cluster, transport, protectedIndex, authentication, audit, observability] =>
    return {
      cluster := ← orDefault {} (ClusterSettings.ofValue? dialect) cluster
      transport := ← orDefault {} (TransportSettings.ofValue? dialect) transport
      protectedIndex := ← orDefault {} (ProtectedIndexSettings.ofValue? dialect) protectedIndex
      authentication := ← orDefault {} (AuthenticationSettings.ofValue? dialect) authentication
      audit := ← orDefault {} (AuditSettings.ofValue? dialect) audit
      observability := ← orDefault {} (ObservabilitySettings.ofValue? dialect) observability }
  | _ => none

/-- The list of some texts. -/
def Value.texts (texts : List String) : Value :=
  .list (texts.map .text)

/-- The cluster section written out. -/
def ClusterSettings.toValue (settings : ClusterSettings) : Value :=
  .table [("name", .text settings.name)]

/-- The transport section written out. -/
def TransportSettings.toValue (settings : TransportSettings) : Value :=
  .table [("nodes_dn", .texts settings.nodesDn),
    ("certificate_oid", (settings.certificateOid.map Value.text).getD .null)]

/-- The section of the protected index written out. -/
def ProtectedIndexSettings.toValue (settings : ProtectedIndexSettings) : Value :=
  .table [("name", .text settings.name), ("filter_mode", .bool settings.filterMode),
    ("restore_enabled", .bool settings.restoreEnabled)]

/-- One principal written out. -/
def PrincipalSettings.toValue (settings : PrincipalSettings) : Value :=
  .table [("dn", .text settings.dn), ("user", .text settings.user),
    ("backend_roles", .texts settings.backendRoles)]

/-- The authentication section written out. -/
def AuthenticationSettings.toValue (settings : AuthenticationSettings) : Value :=
  .table [("principals", .list (settings.principals.map (·.toValue)))]

/-- The audit section written out. -/
def AuditSettings.toValue (settings : AuditSettings) : Value :=
  .table [("enabled", .bool settings.enabled),
    ("disabled_categories", .texts settings.disabledCategories)]

/-- The observability section written out. -/
def ObservabilitySettings.toValue (settings : ObservabilitySettings) : Value :=
  .table [("log_level", .text settings.logLevel), ("log_format", .text settings.logFormat.name),
    ("metrics_enabled", .bool settings.metricsEnabled),
    ("metrics_address", .text settings.metricsAddress)]

/-- Settings written out with every field. -/
def Settings.toValue (settings : Settings) : Value :=
  .table [("cluster", settings.cluster.toValue), ("transport", settings.transport.toValue),
    ("protected_index", settings.protectedIndex.toValue),
    ("authentication", settings.authentication.toValue), ("audit", settings.audit.toValue),
    ("observability", settings.observability.toValue)]

end NodeGate
