import NodeGate.ProtectedIndex

/-!
# The decisions on the protected index

`Decided` lists what a decision can be, each with the request that goes on and with the condition
under which it is made. `decide_decided` shows that there is no other, so later results go by its
cases and not by the branches of the decision.
-/

namespace NodeGate

/-- A request reaches an index: it is for all indices, or the index is among its names. -/
inductive ResolvedIndices.Reaches (index : String) : ResolvedIndices → Prop where
  | everything : Reaches index .all
  | listed {names : NameSet} (member : index ∈ names) : Reaches index (.named names)

namespace ProtectedIndex

/-- The decisions on a request, with the request as it goes on. -/
inductive Decided (protection : ProtectedIndex) (action : String) (request : IndicesRequest) :
    ResolvedIndices → Decision × IndicesRequest → Prop where
  /-- A request that does not reach the index is none of our business. -/
  | apart {resolved : ResolvedIndices} (apart : ¬ resolved.Reaches protection.index) :
      Decided protection action request resolved (.allow, request)
  /-- An action that changes nothing may reach the index, past the cache. -/
  | harmless {resolved : ResolvedIndices} (reaches : resolved.Reaches protection.index)
      (harmless : protection.isDeniedAction action = false) :
      Decided protection action request resolved (.allow, request.withoutCacheAndRealtime)
  /-- Where nothing is filtered, a denied action may not reach the index. -/
  | refused {resolved : ResolvedIndices} (reaches : resolved.Reaches protection.index)
      (denied : protection.isDeniedAction action = true)
      (strict : protection.filterMode = false) :
      Decided protection action request resolved (.deny, request)
  /-- A list of the index alone has nothing left when the index is taken out. -/
  | refusedAlone {names : NameSet} (denied : protection.isDeniedAction action = true)
      (filters : protection.filterMode = true)
      (alone : ∀ name, name ∈ names ↔ name = protection.index) :
      Decided protection action request (.named names) (.deny, request)
  /-- A longer list goes on without the index. -/
  | withoutIndex {names : NameSet} {targets : List String}
      (denied : protection.isDeniedAction action = true) (filters : protection.filterMode = true)
      (member : protection.index ∈ names)
      (remaining : names.toList.filter (· ≠ protection.index) = targets)
      (nonempty : targets ≠ []) :
      Decided protection action request (.named names) (.filter targets, { request with targets })
  /-- A request for all indices goes on for all but the index. -/
  | allButIndex {targets : List String} (denied : protection.isDeniedAction action = true)
      (filters : protection.filterMode = true)
      (excluding : ["*", "-" ++ protection.index] = targets) :
      Decided protection action request .all (.filter targets, { request with targets })

variable {protection : ProtectedIndex} {resolved : ResolvedIndices}

/-- The test for touching the index is whether the request reaches it. -/
theorem touches_eq_true_iff :
    protection.touches resolved = true ↔ resolved.Reaches protection.index := by
  cases resolved with
  | all =>
      simp only [touches, ResolvedIndices.isAll, Bool.or_true, true_iff]
      exact .everything
  | named names =>
      simp only [touches, ResolvedIndices.contains, ResolvedIndices.names, ResolvedIndices.isAll,
        Bool.or_false, List.contains_iff_mem]
      constructor
      · intro member
        exact .listed member
      · rintro ⟨⟩
        assumption

/-- A list with the index has nothing left without it exactly when it has the index alone. -/
theorem without_eq_nil_iff {names : NameSet} {index : String} (member : index ∈ names) :
    names.toList.filter (· ≠ index) = [] ↔ ∀ name, name ∈ names ↔ name = index := by
  simp only [List.filter_eq_nil_iff, decide_eq_true_eq, ne_eq, Decidable.not_not]
  constructor
  · intro only name
    refine ⟨only name, ?_⟩
    rintro rfl
    exact member
  · intro alone name listed
    exact (alone name).1 listed

/-- Every decision is one of those listed. -/
theorem decide_decided (protection : ProtectedIndex) (action : String) (request : IndicesRequest)
    (resolved : ResolvedIndices) :
    Decided protection action request resolved (protection.decide action request resolved) := by
  unfold decide
  by_cases reaches : resolved.Reaches protection.index
  · simp only [touches_eq_true_iff.2 reaches, Bool.not_true, Bool.false_eq_true, if_false]
    cases denied : protection.isDeniedAction action with
    | false => exact .harmless reaches denied
    | true =>
        cases filters : protection.filterMode with
        | false =>
            simp only [filtered?, filters, Bool.false_eq_true, if_false, if_true]
            exact .refused reaches denied filters
        | true =>
            cases reaches with
            | everything =>
                simp only [filtered?, filters, if_true]
                exact .allButIndex denied filters rfl
            | listed member =>
                rename_i names
                simp only [filtered?, filters, if_true, ResolvedIndices.without,
                  ResolvedIndices.names]
                cases remaining : names.toList.filter (· ≠ protection.index) with
                | nil =>
                    exact .refusedAlone denied filters ((without_eq_nil_iff member).1 remaining)
                | cons first rest =>
                    exact .withoutIndex denied filters member remaining (List.cons_ne_nil _ _)
  · have untouched : protection.touches resolved = false :=
      Bool.eq_false_iff.2 fun touched => reaches (touches_eq_true_iff.1 touched)
    simp only [untouched, Bool.not_false, if_true]
    exact .apart reaches

namespace Decided

variable {action : String} {request : IndicesRequest} {result : Decision × IndicesRequest}

/-- Without filtering, a denied action that reaches the index is refused. -/
theorem eq_deny (decided : Decided protection action request resolved result)
    (strict : protection.filterMode = false) (reaches : resolved.Reaches protection.index)
    (denied : protection.isDeniedAction action = true) : result = (.deny, request) := by
  cases decided with
  | apart apart => exact absurd reaches apart
  | harmless _ harmless => cases denied.symm.trans harmless
  | refused => rfl
  | refusedAlone _ filters => cases strict.symm.trans filters
  | withoutIndex _ filters => cases strict.symm.trans filters
  | allButIndex _ filters => cases strict.symm.trans filters

/-- An action that is not denied goes on to the index, past the cache. -/
theorem eq_allow (decided : Decided protection action request resolved result)
    (reaches : resolved.Reaches protection.index)
    (harmless : protection.isDeniedAction action = false) :
    result = (.allow, request.withoutCacheAndRealtime) := by
  cases decided with
  | apart apart => exact absurd reaches apart
  | harmless => rfl
  | refused _ denied => cases harmless.symm.trans denied
  | refusedAlone denied => cases harmless.symm.trans denied
  | withoutIndex denied => cases harmless.symm.trans denied
  | allButIndex denied => cases harmless.symm.trans denied

end Decided

end ProtectedIndex

end NodeGate
