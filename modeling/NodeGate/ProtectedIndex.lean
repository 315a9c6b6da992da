import NodeGate.Config.Settings
import NodeGate.Metrics
import NodeGate.NameSet
import NodeGate.Pattern

/-!
# The protected index

The index that holds the security configuration is closed to actions that would change it. Such a
request is denied, or, in filter mode, goes on without the index: a list of names loses it and a
request for all indices becomes one for all but it. A request that may touch the index by an
allowed action has its cache and its realtime reads switched off.
-/

namespace NodeGate

/-- The indices that a request resolves to. -/
inductive ResolvedIndices where
  | all
  | named (names : NameSet)
  deriving DecidableEq, Repr

namespace ResolvedIndices

/-- The indices of a list of names. -/
def ofList (names : List String) : ResolvedIndices :=
  .named (NameSet.ofList names)

/-- Whether every index is meant. -/
def isAll : ResolvedIndices → Bool
  | .all => true
  | .named _ => false

/-- The names that are given explicitly, in rising order. -/
def names : ResolvedIndices → List String
  | .all => []
  | .named names => names.toList

/-- Whether an index is given explicitly. -/
def contains (resolved : ResolvedIndices) (index : String) : Bool :=
  resolved.names.contains index

/-- The explicit names other than one. -/
def without (resolved : ResolvedIndices) (index : String) : List String :=
  resolved.names.filter (· ≠ index)

end ResolvedIndices

/-- The parts of a request for indices that a decision may replace. -/
structure IndicesRequest where
  /-- The target expressions. -/
  targets : List String
  /-- The cache flag, where the caller set it. -/
  requestCache : Option Bool := none
  /-- The realtime flag, where the caller set it. -/
  realtime : Option Bool := none
  deriving DecidableEq, Repr

/-- The request with cache and realtime reads switched off. -/
def IndicesRequest.withoutCacheAndRealtime (request : IndicesRequest) : IndicesRequest :=
  { request with requestCache := some false, realtime := some false }

/-- The decision on one request. -/
inductive Decision where
  | allow
  | deny
  /-- Allowed with these targets in place of its own. -/
  | filter (targets : List String)
  deriving DecidableEq, Repr

namespace Decision

/-- The kind of a decision. -/
def kind : Decision → DecisionKind
  | .allow => .allow
  | .deny => .deny
  | .filter _ => .filter

/-- Whether the request may go on. -/
def isAllowed : Decision → Bool
  | .deny => false
  | _ => true

/-- The targets that a filtered request goes on with. -/
def targets? : Decision → Option (List String)
  | .filter targets => some targets
  | _ => none

end Decision

/-- The protection of one index. -/
structure ProtectedIndex where
  index : String
  filterMode : Bool
  denied : List Pattern
  deriving DecidableEq, Repr

namespace ProtectedIndex

/-- The actions that change an index. -/
def changingActions : List Pattern :=
  ["indices:data/write*", "indices:admin/delete*", "indices:admin/mapping/delete*",
    "indices:admin/mapping/put*", "indices:admin/freeze*", "indices:admin/settings/update*",
    "indices:admin/aliases"].map Pattern.mk

/-- The actions that lose an index where it cannot be restored. -/
def losingActions : List Pattern :=
  ["indices:admin/close*", "cluster:admin/snapshot/restore*"].map Pattern.mk

/-- The protection that settings ask for. -/
def ofSettings (settings : ProtectedIndexSettings) : ProtectedIndex where
  index := settings.name
  filterMode := settings.filterMode
  denied := changingActions ++ if settings.restoreEnabled then [] else losingActions

/-- Whether an action may not touch the index. -/
def isDeniedAction (protection : ProtectedIndex) (action : String) : Bool :=
  Pattern.anyMatch protection.denied action

/-- The targets of a denied action without the index, or nothing where none would be left or
nothing is filtered. -/
def filtered? (protection : ProtectedIndex) (resolved : ResolvedIndices) : Option (List String) :=
  if protection.filterMode then
    match resolved with
    | .all => some ["*", "-" ++ protection.index]
    | .named _ =>
      match resolved.without protection.index with
      | [] => none
      | remaining => some remaining
  else none

/-- Whether a request may touch the index. -/
def touches (protection : ProtectedIndex) (resolved : ResolvedIndices) : Bool :=
  resolved.contains protection.index || resolved.isAll

/-- The decision on a request, and the request as it goes on. -/
def decide (protection : ProtectedIndex) (action : String) (request : IndicesRequest)
    (resolved : ResolvedIndices) : Decision × IndicesRequest :=
  if !protection.touches resolved then (.allow, request)
  else if protection.isDeniedAction action then
    match protection.filtered? resolved with
    | some targets => (.filter targets, { request with targets })
    | none => (.deny, request)
  else (.allow, request.withoutCacheAndRealtime)

end ProtectedIndex

end NodeGate
