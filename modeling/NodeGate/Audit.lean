import NodeGate.Config.Settings
import NodeGate.GuardError
import NodeGate.Request

/-!
# Audit records

Every refusal that has an audit category leaves exactly one record. A sink decides which records
are written: a recorder keeps them all, a filter follows settings that can be replaced while it is
in use. `AuditRecord.event` is the line that a record becomes.
-/

namespace NodeGate

/-- One security-relevant event. -/
structure AuditRecord where
  category : AuditCategory
  action : String
  request : RequestSummary
  /-- The wording of the refusal, for channel faults only. -/
  detail : Option String := none
  deriving DecidableEq, Repr

namespace AuditRecord

/-- The record that a refusal calls for, if any. -/
def ofError? (error : GuardError) (action : String) (request : RequestSummary) :
    Option AuditRecord :=
  error.category?.map fun category =>
    { category, action, request,
      detail := if category = .sslException then some error.message else none }

/-- The fields of the line that a record becomes. -/
def event (record : AuditRecord) : List (String × String) :=
  let address := match record.request.remoteAddress with
    | some address => "Some(" ++ address.write ++ ")"
    | none => "None"
  [("message", "audit event"),
    ("category", record.category.name),
    ("action", record.action),
    ("request_class", record.request.requestClass),
    ("remote_address", address),
    ("user", record.request.user.getD "<none>"),
    ("origin", record.request.origin.getD "<none>"),
    ("detail", record.detail.getD "")]

end AuditRecord

/-- Which categories are written. -/
structure AuditFilter where
  enabled : Bool
  disabled : List AuditCategory
  deriving DecidableEq, Repr

namespace AuditFilter

/-- The filter that settings ask for. Names that are no category are passed over. -/
def ofSettings (settings : AuditSettings) : AuditFilter where
  enabled := settings.enabled
  disabled := settings.disabledCategories.filterMap AuditCategory.ofName?

/-- Whether records of a category are written. -/
def admits (filter : AuditFilter) (category : AuditCategory) : Bool :=
  filter.enabled && !filter.disabled.contains category

end AuditFilter

/-- Where records go. -/
inductive AuditSink where
  /-- Every record is kept, and none is counted. -/
  | recorder
  /-- The records that a filter admits are written and counted. -/
  | filtered (filter : AuditFilter)
  deriving DecidableEq, Repr

/-- Whether a sink writes records of a category. -/
def AuditSink.admits : AuditSink → AuditCategory → Bool
  | .recorder, _ => true
  | .filtered filter, category => filter.admits category

/-- Whether a sink counts what it writes. -/
def AuditSink.counts : AuditSink → Bool
  | .recorder => false
  | .filtered _ => true

end NodeGate
