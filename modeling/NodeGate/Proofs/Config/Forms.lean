import Mathlib.Data.List.Forall2
import NodeGate.Config.Value

/-!
# Forms of written settings

`Settings.Writes` says outright which values write settings. A section is a table with its fields
in any order and anything beside them, or a list with its fields in their order; a field that holds
its default may be left out, in a list only behind all that are not. A principal is written in the
same two forms, and has to have its name and its user. `Settings.HasSurplus` says which values hold
a list that is too long.
-/

namespace NodeGate

namespace Value

/-- A field of a section: its name, the values that write it and whether it may be left out. -/
structure Field where
  name : String
  means : Value → Prop
  omissible : Prop

namespace Field

/-- A field that may be left out where it holds its default. -/
def optional {Content : Type} (name : String) (writes : Content → Value → Prop)
    (content default : Content) : Field :=
  ⟨name, writes content, content = default⟩

/-- A field that may not be left out. -/
def required {Content : Type} (name : String) (writes : Content → Value → Prop)
    (content : Content) : Field :=
  ⟨name, writes content, False⟩

end Field

/-- Entries hold a field once, or not at all where it may be left out. -/
inductive HoldsField (entries : List (String × Value)) (field : Field) : Prop where
  | once {before after : List (String × Value)} {value : Value}
      (whole : entries = before ++ (field.name, value) :: after)
      (only : ∀ entry ∈ before ++ after, entry.1 ≠ field.name) (meaning : field.means value)
  | leftOut (absent : ∀ entry ∈ entries, entry.1 ≠ field.name) (default : field.omissible)

/-- Items are fields in their order, of which the last may be left out where each of them may. -/
inductive InOrder : List Field → List Value → Prop where
  | leftOut {fields : List Field} (defaults : ∀ field ∈ fields, field.omissible) :
      InOrder fields []
  | next {field : Field} {fields : List Field} {value : Value} {items : List Value}
      (meaning : field.means value) (others : InOrder fields items) :
      InOrder (field :: fields) (value :: items)

/-- A value holds the fields of a section, by name or in their order. -/
inductive WritesFields (fields : List Field) : Value → Prop where
  | table {entries : List (String × Value)} (each : ∀ field ∈ fields, HoldsField entries field) :
      WritesFields fields (.table entries)
  | list {items : List Value} (ordered : InOrder fields items) : WritesFields fields (.list items)

/-- A text is written as itself. -/
inductive WritesText : String → Value → Prop where
  | text (content : String) : WritesText content (.text content)

/-- A flag is written as itself. -/
inductive WritesFlag : Bool → Value → Prop where
  | bool (content : Bool) : WritesFlag content (.bool content)

/-- A text that is not set is null. -/
inductive WritesOptionalText : Option String → Value → Prop where
  | unset : WritesOptionalText none .null
  | text (content : String) : WritesOptionalText (some content) (.text content)

/-- A list is written item by item. -/
inductive WritesList {Content : Type} (writes : Content → Value → Prop) :
    List Content → Value → Prop where
  | list {contents : List Content} {items : List Value}
      (each : List.Forall₂ writes contents items) :
      WritesList writes contents (.list items)

end Value

open Value

/-- The form of log lines is written as its name. -/
inductive LogFormat.Writes : LogFormat → Value → Prop where
  | text (format : LogFormat) : format.Writes (.text format.name)

/-- The values that write the cluster section. -/
def ClusterSettings.Writes (settings : ClusterSettings) : Value → Prop :=
  let default : ClusterSettings := {}
  WritesFields [.optional "name" WritesText settings.name default.name]

/-- The values that write the transport section. -/
def TransportSettings.Writes (settings : TransportSettings) : Value → Prop :=
  let default : TransportSettings := {}
  WritesFields
    [.optional "nodes_dn" (WritesList WritesText) settings.nodesDn default.nodesDn,
      .optional "certificate_oid" WritesOptionalText settings.certificateOid
        default.certificateOid]

/-- The values that write the section of the protected index. -/
def ProtectedIndexSettings.Writes (settings : ProtectedIndexSettings) : Value → Prop :=
  let default : ProtectedIndexSettings := {}
  WritesFields
    [.optional "name" WritesText settings.name default.name,
      .optional "filter_mode" WritesFlag settings.filterMode default.filterMode,
      .optional "restore_enabled" WritesFlag settings.restoreEnabled default.restoreEnabled]

/-- The values that write a principal. -/
def PrincipalSettings.Writes (settings : PrincipalSettings) : Value → Prop :=
  WritesFields
    [.required "dn" WritesText settings.dn, .required "user" WritesText settings.user,
      .optional "backend_roles" (WritesList WritesText) settings.backendRoles []]

/-- The values that write the authentication section. -/
def AuthenticationSettings.Writes (settings : AuthenticationSettings) : Value → Prop :=
  let default : AuthenticationSettings := {}
  WritesFields
    [.optional "principals" (WritesList PrincipalSettings.Writes) settings.principals
      default.principals]

/-- The values that write the audit section. -/
def AuditSettings.Writes (settings : AuditSettings) : Value → Prop :=
  let default : AuditSettings := {}
  WritesFields
    [.optional "enabled" WritesFlag settings.enabled default.enabled,
      .optional "disabled_categories" (WritesList WritesText) settings.disabledCategories
        default.disabledCategories]

/-- The values that write the observability section. -/
def ObservabilitySettings.Writes (settings : ObservabilitySettings) : Value → Prop :=
  let default : ObservabilitySettings := {}
  WritesFields
    [.optional "log_level" WritesText settings.logLevel default.logLevel,
      .optional "log_format" LogFormat.Writes settings.logFormat default.logFormat,
      .optional "metrics_enabled" WritesFlag settings.metricsEnabled default.metricsEnabled,
      .optional "metrics_address" WritesText settings.metricsAddress default.metricsAddress]

/-- The values that write settings. -/
def Settings.Writes (settings : Settings) : Value → Prop :=
  let default : Settings := {}
  WritesFields
    [.optional "cluster" ClusterSettings.Writes settings.cluster default.cluster,
      .optional "transport" TransportSettings.Writes settings.transport default.transport,
      .optional "protected_index" ProtectedIndexSettings.Writes settings.protectedIndex
        default.protectedIndex,
      .optional "authentication" AuthenticationSettings.Writes settings.authentication
        default.authentication,
      .optional "audit" AuditSettings.Writes settings.audit default.audit,
      .optional "observability" ObservabilitySettings.Writes settings.observability
        default.observability]

/-- A value has another for a field of a name and a position: under the name alone, or there. -/
inductive Value.HasField (name : String) (position : Nat) : Value → Value → Prop where
  | named {before after : List (String × Value)} {value : Value}
      (only : ∀ entry ∈ before ++ after, entry.1 ≠ name) :
      HasField name position (.table (before ++ (name, value) :: after)) value
  | placed {items : List Value} {value : Value} (there : items[position]? = some value) :
      HasField name position (.list items) value

namespace Settings

/-- The sections in their order, each with the number of its fields. -/
def sectionSizes : List (String × Nat) :=
  [("cluster", 1), ("transport", 2), ("protected_index", 3), ("authentication", 1), ("audit", 2),
    ("observability", 4)]

/-- A value has a list with more items than there are fields: for the settings, for a section or
for a principal. -/
inductive HasSurplus : Value → Prop where
  | settings {items : List Value} (surplus : sectionSizes.length < items.length) :
      HasSurplus (.list items)
  | inSection {value : Value} {name : String} {position size : Nat} {items : List Value}
      (declared : sectionSizes[position]? = some (name, size))
      (written : value.HasField name position (.list items)) (surplus : size < items.length) :
      HasSurplus value
  | inPrincipal {value authentication : Value} {principals items : List Value}
      (written : value.HasField "authentication" 3 authentication)
      (listed : authentication.HasField "principals" 0 (.list principals))
      (among : .list items ∈ principals) (surplus : 3 < items.length) : HasSurplus value

end Settings

end NodeGate
