import NodeGate.Proofs.Pattern.Language
import NodeGate.Proofs.ProtectedIndex.Exclusion

/-!
# What the flags of a deployment change

A deployment says whether it filters and whether it can restore the protected index. Filtering turns
refusals, and nothing else, into refusals or filtered requests (`FiltersRefused`). Being able to
restore opens the actions that lose an index, and nothing else, and opens them for good
(`OpensLosing`). `evaluate_deployments` compares the four guards on every input.
-/

namespace NodeGate

namespace ProtectedIndex

namespace Decided

variable {protection : ProtectedIndex} {action : String} {request : IndicesRequest}
  {resolved : ResolvedIndices} {result : Decision × IndicesRequest}

/-- A request that does not reach the index goes on as it is. -/
theorem eq_allow_of_apart (decided : Decided protection action request resolved result)
    (apart : ¬ resolved.Reaches protection.index) : result = (.allow, request) := by
  cases decided with
  | apart => rfl
  | harmless reaches => exact absurd reaches apart
  | refused reaches => exact absurd reaches apart
  | refusedAlone denied filters alone => exact absurd (.listed ((alone _).2 rfl)) apart
  | withoutIndex denied filters member => exact absurd (.listed member) apart
  | allButIndex => exact absurd .everything apart

/-- A denied action that reaches the index is refused, or sent past the index. -/
theorem deny_or_filter (decided : Decided protection action request resolved result)
    (reaches : resolved.Reaches protection.index)
    (denied : protection.isDeniedAction action = true) :
    result = (.deny, request) ∨
      ∃ targets, result = (.filter targets, { request with targets }) ∧
        GoesPast protection.index targets resolved := by
  obtain ⟨decision, after⟩ := result
  cases decision with
  | allow => exact absurd ⟨denied, reaches⟩ (decided.allow_iff.1 rfl)
  | deny => exact .inl (by rw [decided.after_deny])
  | filter targets => exact .inr ⟨targets, by rw [decided.after_filter], decided.goesPast⟩

end Decided

/-- Of the actions that are denied, a decision depends on whether the one at hand is. -/
theorem decide_congr (left right : ProtectedIndex) {action : String}
    (index : left.index = right.index) (filterMode : left.filterMode = right.filterMode)
    (denied : left.isDeniedAction action = right.isDeniedAction action)
    (request : IndicesRequest) (resolved : ResolvedIndices) :
    left.decide action request resolved = right.decide action request resolved := by
  obtain ⟨_, _, _⟩ := left
  obtain ⟨_, _, _⟩ := right
  cases index
  cases filterMode
  unfold decide
  rw [denied]
  rfl

/-- The protection of an index in a deployment with these flags. -/
def deployed (index : String) (filterMode restoreEnabled : Bool) : ProtectedIndex :=
  ofSettings { name := index, filterMode, restoreEnabled }

/-- An action fits some pattern of a list. -/
def FitsAny (patterns : List Pattern) (action : String) : Prop :=
  ∃ pattern ∈ patterns, pattern.Fits action

variable {index action : String} {filterMode restoreEnabled : Bool}

/-- Changing actions are always denied, and losing ones where the index cannot be restored. -/
theorem isDeniedAction_deployed_iff :
    (deployed index filterMode restoreEnabled).isDeniedAction action = true ↔
      FitsAny changingActions action ∨ restoreEnabled = false ∧ FitsAny losingActions action := by
  rw [isDeniedAction, Pattern.anyMatch, List.any_eq_true]
  simp only [deployed, ofSettings, FitsAny, Pattern.fits_iff, List.mem_append, or_and_right,
    exists_or]
  cases restoreEnabled with
  | true => simp
  | false => simp

/-- Two deployments deny an action alike, or it is a losing one that fits no pattern of changing
actions. -/
theorem isDeniedAction_eq_or_losing (index action : String) (filterMode : Bool) :
    (deployed index filterMode false).isDeniedAction action =
        (deployed index filterMode true).isDeniedAction action ∨
      FitsAny losingActions action ∧ ¬ FitsAny changingActions action := by
  by_cases changing : FitsAny changingActions action
  · have denied (restoreEnabled : Bool) :
        (deployed index filterMode restoreEnabled).isDeniedAction action = true :=
      isDeniedAction_deployed_iff.2 (.inl changing)
    exact .inl ((denied false).trans (denied true).symm)
  · by_cases losing : FitsAny losingActions action
    · exact .inr ⟨losing, changing⟩
    · have allowed (restoreEnabled : Bool) :
          (deployed index filterMode restoreEnabled).isDeniedAction action = false := by
        rw [Bool.eq_false_iff, ne_eq, isDeniedAction_deployed_iff]
        rintro (changes | ⟨_, loses⟩)
        · exact changing changes
        · exact losing loses
      exact .inl ((allowed false).trans (allowed true).symm)

/-- What a guard that filters makes of a request, beside one that refuses. -/
structure FiltersRefused (index : String) (request : IndicesRequest) (resolved : ResolvedIndices)
    (refusing filtering : Decision × IndicesRequest) : Prop where
  /-- The one refuses exactly where the other refuses or filters. -/
  deny_iff : refusing.1 = .deny ↔
    filtering.1 = .deny ∨ ∃ targets, filtering.1 = .filter targets
  /-- Everything else both allow, and leave alike. -/
  allow : refusing.1 ≠ .deny → refusing.1 = .allow ∧ filtering = refusing
  /-- What the one refuses does not get at the index through the other. -/
  safe : refusing.1 = .deny →
    filtering = (.deny, request) ∨
      ∃ targets, filtering = (.filter targets, { request with targets }) ∧
        GoesPast index targets resolved ∧
        (ProtectedIndexSettings.isConcrete index = true → LeavesOut index targets resolved)

/-- What a guard makes of a request where the index can be restored, beside one where it cannot. -/
structure OpensLosing (index action : String) (request : IndicesRequest)
    (resolved : ResolvedIndices) (losing restoring : Decision × IndicesRequest) : Prop where
  /-- What is not plainly allowed where the index can be restored is treated alike where it
  cannot. -/
  same : restoring.1 ≠ .allow → losing = restoring
  /-- The two differ on the losing actions that reach the index. -/
  differ_iff : losing ≠ restoring ↔
    resolved.Reaches index ∧
      (Pattern.Fits ⟨"indices:admin/close*"⟩ action ∨
        Pattern.Fits ⟨"cluster:admin/snapshot/restore*"⟩ action) ∧
      ∀ pattern ∈ changingActions, ¬ pattern.Fits action
  /-- There the one allows, past the cache, and the other does not. -/
  opened : losing ≠ restoring →
    restoring = (.allow, request.withoutCacheAndRealtime) ∧ losing.1 ≠ .allow
  /-- Being able to restore refuses nothing more. -/
  deny : restoring.1 = .deny → losing.1 = .deny

/-- Two guards that allow a request alike. -/
theorem FiltersRefused.of_allow (index : String) (request : IndicesRequest)
    (resolved : ResolvedIndices) (after : IndicesRequest) :
    FiltersRefused index request resolved (.allow, after) (.allow, after) where
  deny_iff := by simp
  allow _ := ⟨rfl, rfl⟩
  safe := by simp

/-- A guard that filters, beside one that refuses. -/
theorem deployed_filtersRefused (index action : String) (restoreEnabled : Bool)
    (request : IndicesRequest) (resolved : ResolvedIndices) :
    FiltersRefused index request resolved
      ((deployed index false restoreEnabled).decide action request resolved)
      ((deployed index true restoreEnabled).decide action request resolved) := by
  have refusing := (deployed index false restoreEnabled).decide_decided action request resolved
  have filtering := (deployed index true restoreEnabled).decide_decided action request resolved
  by_cases reaches : resolved.Reaches index
  · cases denied : (deployed index false restoreEnabled).isDeniedAction action with
    | false =>
        rw [refusing.eq_allow reaches denied, filtering.eq_allow reaches denied]
        exact .of_allow index request resolved request.withoutCacheAndRealtime
    | true =>
        have past := filtering.deny_or_filter reaches denied
        rw [refusing.eq_deny rfl reaches denied]
        refine ⟨?_, by simp, fun _ => past.imp_right ?_⟩
        · rcases past with refused | ⟨targets, filtered, _⟩
          · simp [refused]
          · simp [filtered]
        · rintro ⟨targets, filtered, goesPast⟩
          rw [filtered] at filtering
          exact ⟨targets, filtered, goesPast, fun concrete => (filtering.leavesOut concrete).2⟩
  · rw [refusing.eq_allow_of_apart reaches, filtering.eq_allow_of_apart reaches]
    exact .of_allow index request resolved request

/-- The losing actions are those of closing and restoring. -/
theorem fitsAny_losingActions_iff :
    FitsAny losingActions action ↔
      Pattern.Fits ⟨"indices:admin/close*"⟩ action ∨
        Pattern.Fits ⟨"cluster:admin/snapshot/restore*"⟩ action := by
  simp [FitsAny, losingActions]

/-- A losing action that reaches the index and changes nothing is allowed where the index can be
restored, and not where it cannot. -/
theorem deployed_of_losing (filterMode : Bool) (request : IndicesRequest)
    {resolved : ResolvedIndices} (reaches : resolved.Reaches index)
    (losing : FitsAny losingActions action) (unchanging : ¬ FitsAny changingActions action) :
    (deployed index filterMode true).decide action request resolved =
        (.allow, request.withoutCacheAndRealtime) ∧
      ((deployed index filterMode false).decide action request resolved).1 ≠ .allow := by
  have restoring := (deployed index filterMode true).decide_decided action request resolved
  have notRestoring := (deployed index filterMode false).decide_decided action request resolved
  have harmless : (deployed index filterMode true).isDeniedAction action = false := by
    rw [Bool.eq_false_iff, ne_eq, isDeniedAction_deployed_iff]
    simpa using unchanging
  have denied : (deployed index filterMode false).isDeniedAction action = true :=
    isDeniedAction_deployed_iff.2 (.inr ⟨rfl, losing⟩)
  refine ⟨restoring.eq_allow reaches harmless, fun allowed => ?_⟩
  exact notRestoring.allow_iff.1 allowed ⟨denied, reaches⟩

/-- Where two deployments differ, a losing action that changes nothing reaches the index. -/
theorem losing_of_differ {request : IndicesRequest} {resolved : ResolvedIndices}
    (differ : (deployed index filterMode false).decide action request resolved ≠
      (deployed index filterMode true).decide action request resolved) :
    resolved.Reaches index ∧ FitsAny losingActions action ∧ ¬ FitsAny changingActions action := by
  have losing := (deployed index filterMode false).decide_decided action request resolved
  have restoring := (deployed index filterMode true).decide_decided action request resolved
  constructor
  · by_contra apart
    apply differ
    rw [losing.eq_allow_of_apart apart, restoring.eq_allow_of_apart apart]
  · refine (isDeniedAction_eq_or_losing index action filterMode).resolve_left fun alike => ?_
    exact differ (decide_congr (deployed index filterMode false) (deployed index filterMode true)
      rfl rfl alike request resolved)

/-- A guard where the index can be restored, beside one where it cannot. -/
theorem deployed_opensLosing (index action : String) (filterMode : Bool)
    (request : IndicesRequest) (resolved : ResolvedIndices) :
    OpensLosing index action request resolved
      ((deployed index filterMode false).decide action request resolved)
      ((deployed index filterMode true).decide action request resolved) := by
  have opened (differ : (deployed index filterMode false).decide action request resolved ≠
      (deployed index filterMode true).decide action request resolved) := by
    obtain ⟨reaches, losing, unchanging⟩ := losing_of_differ differ
    exact deployed_of_losing filterMode request reaches losing unchanging
  have same (notAllowed : ((deployed index filterMode true).decide action request resolved).1 ≠
      .allow) : (deployed index filterMode false).decide action request resolved =
        (deployed index filterMode true).decide action request resolved := by
    by_contra differ
    exact notAllowed (congrArg Prod.fst (opened differ).1)
  refine ⟨same, ?_, opened, fun refused => ?_⟩
  · have unmatched : (∀ pattern ∈ changingActions, ¬ pattern.Fits action) ↔
        ¬ FitsAny changingActions action := by
      simp [FitsAny]
    rw [unmatched, ← fitsAny_losingActions_iff]
    refine ⟨losing_of_differ, fun ⟨reaches, losing, unchanging⟩ alike => ?_⟩
    obtain ⟨allowed, notAllowed⟩ := deployed_of_losing filterMode request reaches losing unchanging
    rw [alike, allowed] at notAllowed
    exact notAllowed rfl
  · rw [same (by simp [refused]), refused]

end ProtectedIndex

namespace Guard

open ProtectedIndex

/-- The guard in a deployment with these flags. -/
def deployed (guard : Guard) (index : String) (filterMode restoreEnabled : Bool) : Guard :=
  { guard with protection := .deployed index filterMode restoreEnabled }

/-- Filtering turns refusals into refusals or requests that go past the index, and changes nothing
else. Being able to restore opens the actions that close an index or restore a snapshot, and
changes nothing else. So filtering lets no denied action at the index, and being able to restore
refuses nothing more. -/
theorem evaluate_deployments (guard : Guard) (index action : String) (request : IndicesRequest)
    (resolved : ResolvedIndices) (summary : RequestSummary) :
    (∀ restoreEnabled, FiltersRefused index request resolved
        ((guard.deployed index false restoreEnabled).evaluate action request resolved summary).2
        ((guard.deployed index true restoreEnabled).evaluate action request resolved summary).2) ∧
      ∀ filterMode, OpensLosing index action request resolved
        ((guard.deployed index filterMode false).evaluate action request resolved summary).2
        ((guard.deployed index filterMode true).evaluate action request resolved summary).2 :=
  ⟨fun restoreEnabled => deployed_filtersRefused index action restoreEnabled request resolved,
    fun filterMode => deployed_opensLosing index action filterMode request resolved⟩

/-- A snapshot is restored over the index and another one: refused, filtered, allowed, allowed. -/
example :
    let decision (filterMode restoreEnabled : Bool) : Decision :=
      ((Node.start {} {}).guard.deployed ".sg-config" filterMode restoreEnabled).evaluate
        "cluster:admin/snapshot/restore" { targets := ["_all"] } (.ofList [".sg-config", "logs"])
        {} |>.2.1
    [decision false false, decision true false, decision false true, decision true true] =
      [.deny, .filter ["logs"], .allow, .allow] := by
  decide

end Guard

end NodeGate
