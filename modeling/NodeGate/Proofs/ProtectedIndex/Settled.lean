import NodeGate.Proofs.ProtectedIndex.Deployment

/-!
# A decision settles the request

A decision changes the request it is about, so the request may be put to the guard again. Deciding
once is deciding for good (`decide_after`), and a list of names that has lost the index is of no
more interest to the guard. `evaluate_settles` says what becomes of a request of each kind, and that
the order and the repetition of the names it resolves to do not matter.
-/

namespace NodeGate

/-- Lists of the same names resolve to the same indices. -/
theorem ResolvedIndices.ofList_congr {names others : List String}
    (same : ∀ name, name ∈ names ↔ name ∈ others) : ofList names = ofList others := by
  apply congrArg ResolvedIndices.named
  apply NameSet.ext_mem
  intro name
  rw [NameSet.mem_ofList, NameSet.mem_ofList, same]

namespace ProtectedIndex

variable (protection : ProtectedIndex) (action : String) (request : IndicesRequest)
  (resolved : ResolvedIndices)

/-- A request on which a decision was made is decided in the same way, and left as it is. -/
theorem decide_after :
    protection.decide action (protection.decide action request resolved).2 resolved =
      protection.decide action request resolved := by
  simp only [decide]
  cases protection.touches resolved with
  | false => rfl
  | true =>
      cases protection.isDeniedAction action with
      | false => rfl
      | true => cases protection.filtered? resolved <;> rfl

variable {protection action request}

/-- A list of names that has lost the index is allowed as it stands. -/
theorem decide_filtered {names : NameSet} {targets : List String} {after : IndicesRequest}
    (filtered : protection.decide action request (.named names) = (.filter targets, after)) :
    protection.decide action after (.ofList after.targets) = (.allow, after) := by
  have decided := protection.decide_decided action request (.named names)
  rw [filtered] at decided
  have apart : ¬ (ResolvedIndices.ofList after.targets).Reaches protection.index := by
    rw [decided.after_filter]
    intro reaches
    cases reaches with
    | listed member => exact decided.goesPast (NameSet.mem_ofList.1 member)
  exact (protection.decide_decided action after _).eq_allow_of_apart apart

end ProtectedIndex

namespace Guard

variable {guard : Guard} {action : String} {request after : IndicesRequest}
  {resolved : ResolvedIndices} {decision : Decision}

/-- An evaluation that does not deny counts its decision and does nothing else. -/
theorem evaluate_eq_of_ne_deny
    (decided : guard.protection.decide action request resolved = (decision, after))
    (notDenied : decision ≠ .deny) (summary : RequestSummary) :
    guard.evaluate action request resolved summary =
      (guard.count (.decisions decision.kind), decision, after) := by
  cases decision with
  | allow | filter => simp only [evaluate, decided]
  | deny => exact absurd rfl notDenied

/-- A request that a guard decided on is settled: the guard may be asked about it again. -/
structure Settled (action : String) (request : IndicesRequest) (resolved : ResolvedIndices)
    (guard : Guard) (decision : Decision) (after : IndicesRequest) : Prop where
  /-- A list of names that was filtered is allowed as it stands. The decision is counted, and
  nothing is recorded. -/
  filtered : ∀ names targets, resolved = .named names → decision = .filter targets →
    ∀ summary, guard.evaluate action after (.ofList after.targets) summary =
      (guard.count (.decisions .allow), .allow, after)
  /-- What was allowed is allowed as it stands. -/
  allowed : decision = .allow → ∀ summary,
    guard.evaluate action after resolved summary =
      (guard.count (.decisions .allow), .allow, after)
  /-- What was denied is the request as it came, and is denied again. -/
  denied : decision = .deny → after = request ∧ ∀ summary,
    (guard.evaluate action after resolved summary).2 = (.deny, request)
  /-- All indices but the protected one are left so when they are taken for all indices again. -/
  allButIndex : ∀ targets, resolved = .all → decision = .filter targets → ∀ summary,
    guard.evaluate action after .all summary =
      (guard.count (.decisions .filter), .filter targets, after)

/-- An evaluation settles its request. The order and the repetition of the names that the request
resolves to make no difference to it. -/
theorem evaluate_settles (guard : Guard) (action : String) (request : IndicesRequest)
    (resolved : ResolvedIndices) (summary : RequestSummary) :
    Settled action request resolved (guard.evaluate action request resolved summary).1
        (guard.evaluate action request resolved summary).2.1
        (guard.evaluate action request resolved summary).2.2 ∧
      ∀ names others, (∀ name, name ∈ names ↔ name ∈ others) →
        guard.evaluate action request (.ofList names) summary =
          guard.evaluate action request (.ofList others) summary := by
  have protection : (guard.evaluate action request resolved summary).1.protection =
      guard.protection :=
    (guard.perform_sameRules (.evaluate action request resolved summary)).protection
  refine ⟨?_, fun names others same => by rw [ResolvedIndices.ofList_congr same]⟩
  -- The guard has counted a decision by now, but its protection, on which decisions rest, is the
  -- same.
  generalize (guard.evaluate action request resolved summary).1 = later at protection
  change Settled action request resolved later
    (guard.protection.decide action request resolved).1
    (guard.protection.decide action request resolved).2
  have again := guard.protection.decide_after action request resolved
  rw [← protection] at again ⊢
  rcases decided : later.protection.decide action request resolved with ⟨decision, after⟩
  rw [decided] at again
  refine ⟨?_, ?_, ?_, ?_⟩
  · rintro names targets rfl rfl summary
    exact evaluate_eq_of_ne_deny (ProtectedIndex.decide_filtered decided) (by simp) summary
  · rintro rfl summary
    exact evaluate_eq_of_ne_deny again (by simp) summary
  · rintro rfl
    have kept := later.protection.decide_decided action request resolved
    rw [decided] at kept
    have unchanged := kept.after_deny
    subst unchanged
    exact ⟨rfl, fun summary => again⟩
  · rintro targets rfl rfl summary
    exact evaluate_eq_of_ne_deny again (by simp) summary

/-- A deletion that has lost the index is allowed when it comes back, and the names it came with may
be listed in another order and twice. -/
theorem evaluate_settles_deletion :
    let guard := (Node.start {} { protectedIndex := { filterMode := true } }).guard
    let request : IndicesRequest := { targets := ["_all"], realtime := some true }
    let first := guard.evaluate "indices:admin/delete" request (.ofList [".sg-config", "logs"]) {}
    first.2 = (.filter ["logs"], { targets := ["logs"], realtime := some true }) ∧
      first.1.evaluate "indices:admin/delete" first.2.2 (.ofList ["logs"]) {} =
        (first.1.count (.decisions .allow), .allow, first.2.2) ∧
      guard.evaluate "indices:admin/delete" request (.ofList ["logs", ".sg-config", "logs"]) {} =
        first := by
  intro guard request first
  have filtered : first.2 = (.filter ["logs"], { targets := ["logs"], realtime := some true }) := by
    decide
  have targets : first.2.2.targets = ["logs"] := by rw [filtered]
  obtain ⟨settled, reordered⟩ := evaluate_settles guard "indices:admin/delete" request
    (.ofList [".sg-config", "logs"]) {}
  have again := settled.filtered _ _ rfl (congrArg Prod.fst filtered) {}
  rw [targets] at again
  refine ⟨filtered, again, reordered _ _ fun name => ?_⟩
  simp only [List.mem_cons, List.not_mem_nil, or_false]
  tauto

end Guard

end NodeGate
