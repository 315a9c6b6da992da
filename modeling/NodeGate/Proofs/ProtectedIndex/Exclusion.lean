import Mathlib.Data.Set.Basic
import NodeGate.Config.Validation
import NodeGate.Node
import NodeGate.Proofs.Guard
import NodeGate.Proofs.ProtectedIndex.Decision
import NodeGate.Proofs.Text.Utf8Order

/-!
# The protected index is left out, and nothing else

A denied action never gets at the protected index: its request is refused as it came, or goes on
with targets that leave the index out. What is left out is the index alone. For a list of names
this is a statement about the list; for a request for all indices it is one about what the new
target expressions select, whichever indices exist (`TargetReading`), and it rests on the index
having a concrete name. `evaluate_keepsIndexOut` is the main result.
-/

namespace NodeGate

open NodeGate.Text

/-- A way to read target expressions one after the other, each changing what is selected from the
indices that exist: a star selects everything, and a hyphen before a concrete name takes the index
of that name away. Nothing is said of other expressions. -/
structure TargetReading (existing : Set String) where
  read : Set String → String → Set String
  everything : ∀ selected, read selected "*" = existing
  excluded : ∀ selected name, ProtectedIndexSettings.isConcrete name = true →
    read selected ("-" ++ name) = selected \ {name}

namespace TargetReading

variable {existing : Set String}

/-- What a list of expressions selects, read from left to right. -/
def selection (reading : TargetReading existing) (targets : List String) : Set String :=
  targets.foldl reading.read ∅

/-- The reading that takes every text after a hyphen for a name, and any other expression but the
star for the name of an index to add. -/
def plain (existing : Set String) : TargetReading existing where
  read selected expression :=
    if expression = "*" then existing
    else
      match expression.toList with
      | '-' :: name => selected \ {String.ofList name}
      | _ => selected ∪ existing ∩ {expression}
  everything _ := if_pos rfl
  excluded selected name _ := by
    have spelled : ("-" ++ name).toList = '-' :: name.toList := by simp
    have notStar : "-" ++ name ≠ "*" := by
      intro same
      rw [same] at spelled
      simp at spelled
    simp [notStar, spelled]

/-- All but one index is everything except that index, for an index with a concrete name. -/
theorem selection_allBut (reading : TargetReading existing) {index : String}
    (concrete : ProtectedIndexSettings.isConcrete index = true) :
    reading.selection ["*", "-" ++ index] = existing \ {index} := by
  simp only [selection, List.foldl_cons, List.foldl_nil, reading.everything,
    reading.excluded _ index concrete]

end TargetReading

/-- A protected index with valid settings has a concrete name. -/
theorem ProtectedIndexSettings.isConcrete_of_problems {settings : ProtectedIndexSettings}
    (valid : settings.problems = []) : isConcrete settings.name = true := by
  unfold problems at valid
  split at valid
  · cases valid
  split at valid
  · assumption
  · cases valid

namespace ProtectedIndex

/-- New targets of a request go past an index: a list of names does not name it, and expressions for
all indices take it away from everything. -/
def GoesPast (index : String) (targets : List String) : ResolvedIndices → Prop
  | .named _ => index ∉ targets
  | .all => targets = ["*", "-" ++ index]

/-- New targets of a request leave an index out: a list of names does not name it, and expressions
for all indices do not select it, whichever indices exist and however they are read. -/
def LeavesOut (index : String) (targets : List String) : ResolvedIndices → Prop
  | .named _ => index ∉ targets
  | .all => ∀ (existing : Set String) (reading : TargetReading existing),
    index ∉ reading.selection targets

namespace Decided

variable {protection : ProtectedIndex} {action : String} {request after : IndicesRequest}
  {resolved : ResolvedIndices} {decision : Decision} {targets : List String}

/-- A request is allowed as it stands unless a denied action reaches the index. -/
theorem allow_iff (decided : Decided protection action request resolved (decision, after)) :
    decision = .allow ↔
      ¬ (protection.isDeniedAction action = true ∧ resolved.Reaches protection.index) := by
  cases decided with
  | apart apart => simp [apart]
  | harmless reaches harmless => simp [harmless]
  | refused reaches denied strict => simp [reaches, denied]
  | refusedAlone denied filters alone =>
      have reaches := ResolvedIndices.Reaches.listed ((alone protection.index).2 rfl)
      simp [reaches, denied]
  | withoutIndex denied filters member remaining nonempty =>
      simp [ResolvedIndices.Reaches.listed member, denied]
  | allButIndex denied filters excluding =>
      simp [ResolvedIndices.Reaches.everything, denied]

/-- Targets that replace those of a request go past the index. -/
theorem goesPast (decided : Decided protection action request resolved (.filter targets, after)) :
    GoesPast protection.index targets resolved := by
  cases decided with
  | withoutIndex denied filters member remaining nonempty =>
      intro listed
      rw [← remaining] at listed
      simpa using List.of_mem_filter listed
  | allButIndex denied filters excluding => exact excluding.symm

/-- Targets are replaced in filter mode only, and leave the index out. -/
theorem leavesOut (decided : Decided protection action request resolved (.filter targets, after))
    (concrete : ProtectedIndexSettings.isConcrete protection.index = true) :
    protection.filterMode = true ∧ LeavesOut protection.index targets resolved := by
  have past := decided.goesPast
  cases decided with
  | withoutIndex denied filters member remaining nonempty => exact ⟨filters, past⟩
  | allButIndex denied filters excluding =>
      refine ⟨filters, fun existing reading selected => ?_⟩
      rw [← excluding, reading.selection_allBut concrete] at selected
      exact selected.2 rfl

/-- A list of names keeps every name but the index, once and in the order of bytes. -/
theorem keepsNames {listed : List String}
    (decided : Decided protection action request (.ofList listed) (.filter targets, after)) :
    targets ≠ [] ∧ (∀ name, name ∈ targets ↔ name ∈ listed ∧ name ≠ protection.index) ∧
      targets.Pairwise fun left right => Utf8.ofString left < Utf8.ofString right := by
  cases decided with
  | withoutIndex denied filters member remaining nonempty =>
      subst remaining
      refine ⟨nonempty, fun name => ?_, ?_⟩
      · rw [List.mem_filter, decide_eq_true_eq]
        exact and_congr_left' NameSet.mem_ofList
      · exact ((NameSet.ofList listed).ordered.imp Utf8.ofString_lt_ofString).filter _

/-- A request for all indices goes on for all of them but the protected one. -/
theorem keepsRest (decided : Decided protection action request .all (.filter targets, after))
    (concrete : ProtectedIndexSettings.isConcrete protection.index = true)
    (existing : Set String) (reading : TargetReading existing) :
    reading.selection targets = existing \ {protection.index} := by
  cases decided with
  | allButIndex denied filters excluding =>
      rw [← excluding]
      exact reading.selection_allBut concrete

/-- In filter mode a request is refused only where it names the index alone. -/
theorem alone_of_deny (decided : Decided protection action request resolved (.deny, after))
    (filters : protection.filterMode = true) :
    ∃ names, resolved = .named names ∧ ∀ name, name ∈ names ↔ name = protection.index := by
  cases decided with
  | refused reaches denied strict => simp [filters] at strict
  | refusedAlone denied filters' alone => exact ⟨_, rfl, alone⟩

/-- A refused request stays as it was. -/
theorem after_deny (decided : Decided protection action request resolved (.deny, after)) :
    after = request := by
  cases decided <;> rfl

/-- A filtered request changes in its targets alone. -/
theorem after_filter
    (decided : Decided protection action request resolved (.filter targets, after)) :
    after = { request with targets } := by
  cases decided <;> rfl

/-- A request that is allowed to reach the index goes past the cache. -/
theorem after_allow_of_reaches
    (decided : Decided protection action request resolved (.allow, after))
    (reaches : resolved.Reaches protection.index) :
    after = { request with requestCache := some false, realtime := some false } := by
  cases decided with
  | apart apart => exact absurd reaches apart
  | harmless reaches' harmless => rfl

/-- A request that does not reach the index stays as it was. -/
theorem after_allow_of_not_reaches
    (decided : Decided protection action request resolved (.allow, after))
    (apart : ¬ resolved.Reaches protection.index) : after = request := by
  cases decided with
  | apart apart' => rfl
  | harmless reaches harmless => exact absurd reaches apart

end Decided

/-- A decision keeps denied actions out of the index, and changes nothing that it need not. -/
structure KeepsIndexOut (protection : ProtectedIndex) (action : String)
    (request : IndicesRequest) (resolved : ResolvedIndices) (decision : Decision)
    (after : IndicesRequest) : Prop where
  /-- A request is allowed as it stands unless a denied action reaches the index. -/
  allow_iff : decision = .allow ↔
    ¬ (protection.isDeniedAction action = true ∧ resolved.Reaches protection.index)
  /-- A denied action that reaches the index is refused, with its request as it was, or, in filter
  mode, goes on with targets that leave the index out. -/
  safe : protection.isDeniedAction action = true → resolved.Reaches protection.index →
    decision = .deny ∧ after = request ∨
      protection.filterMode = true ∧ ∃ targets, decision = .filter targets ∧
        after.targets = targets ∧ LeavesOut protection.index targets resolved
  /-- A filtered list has the other names, at least one, each once and in the order of bytes. -/
  keepsNames : ∀ listed targets, resolved = .ofList listed → decision = .filter targets →
    targets ≠ [] ∧ (∀ name, name ∈ targets ↔ name ∈ listed ∧ name ≠ protection.index) ∧
      targets.Pairwise fun left right => Utf8.ofString left < Utf8.ofString right
  /-- A filtered request for all indices selects everything but the index, whatever exists. -/
  keepsRest : ∀ targets, resolved = .all → decision = .filter targets →
    ∀ (existing : Set String) (reading : TargetReading existing),
      reading.selection targets = existing \ {protection.index}
  /-- In filter mode only a list of the index alone is refused. -/
  alone : protection.filterMode = true → decision = .deny →
    ∃ names, resolved = .named names ∧ ∀ name, name ∈ names ↔ name = protection.index
  /-- A refusal leaves the request as it was. -/
  frameDeny : decision = .deny → after = request
  /-- Filtering replaces the targets and leaves both flags. -/
  frameFilter : ∀ targets, decision = .filter targets → after = { request with targets }
  /-- An allowed request that reaches the index has both flags switched off and keeps its
  targets. -/
  frameReaching : decision = .allow → resolved.Reaches protection.index →
    after = { request with requestCache := some false, realtime := some false }
  /-- An allowed request that does not reach the index stays as it was. -/
  frameApart : decision = .allow → ¬ resolved.Reaches protection.index → after = request

/-- Every decision about an index with a concrete name keeps denied actions out of it. -/
theorem Decided.keepsIndexOut {protection : ProtectedIndex} {action : String}
    {request after : IndicesRequest} {resolved : ResolvedIndices} {decision : Decision}
    (decided : Decided protection action request resolved (decision, after))
    (concrete : ProtectedIndexSettings.isConcrete protection.index = true) :
    KeepsIndexOut protection action request resolved decision after where
  allow_iff := decided.allow_iff
  safe := by
    intro denied reaches
    cases decision with
    | allow => exact absurd ⟨denied, reaches⟩ (decided.allow_iff.1 rfl)
    | deny => exact .inl ⟨rfl, decided.after_deny⟩
    | filter targets =>
        obtain ⟨filters, out⟩ := decided.leavesOut concrete
        rw [decided.after_filter]
        exact .inr ⟨filters, targets, rfl, rfl, out⟩
  keepsNames := by
    rintro listed targets rfl rfl
    exact decided.keepsNames
  keepsRest := by
    rintro targets rfl rfl
    exact decided.keepsRest concrete
  alone := by
    rintro filters rfl
    exact decided.alone_of_deny filters
  frameDeny := by
    rintro rfl
    exact decided.after_deny
  frameFilter := by
    rintro targets rfl
    exact decided.after_filter
  frameReaching := by
    rintro rfl
    exact decided.after_allow_of_reaches
  frameApart := by
    rintro rfl
    exact decided.after_allow_of_not_reaches

end ProtectedIndex

namespace Guard

variable (guard : Guard) (action : String) (request : IndicesRequest)
  (resolved : ResolvedIndices) (summary : RequestSummary)

/-- The records of an evaluation: one attempt where it denies, as far as the sink takes it. -/
theorem journal_evaluate :
    (guard.evaluate action request resolved summary).1.journal =
      guard.journal ++
        if (guard.evaluate action request resolved summary).2.1 = .deny ∧
            guard.sink.admits .protectedIndexAttempt = true then
          [{ category := .protectedIndexAttempt, action, request := summary }]
        else [] := by
  rcases decided : guard.protection.decide action request resolved with ⟨decision, after⟩
  cases decision with
  | allow | filter => simp [evaluate, decided, count]
  | deny => simp [evaluate, decided, count, journal_record]

/-- Enforcing answers with an error exactly where evaluating denies. -/
theorem enforce_snd :
    (guard.enforce action request resolved summary).2 =
      (if (guard.evaluate action request resolved summary).2.1 = .deny then
          .error (.protectedResourceDenied action guard.protection.index)
        else .ok (),
        (guard.evaluate action request resolved summary).2.2) := by
  have protection : (guard.evaluate action request resolved summary).1.protection =
      guard.protection :=
    (guard.perform_sameRules (.evaluate action request resolved summary)).protection
  simp only [enforce]
  cases (guard.evaluate action request resolved summary).2.1 with
  | allow | filter => rfl
  | deny => simp only [protection, if_true]

/-- A guard whose index has a valid name keeps denied actions out of it, whoever asks for whatever
indices. It records an attempt exactly where it denies, and enforcing refuses exactly there. -/
theorem evaluate_keepsIndexOut (settings : ProtectedIndexSettings)
    (valid : settings.problems = [])
    (protects : guard.protection = ProtectedIndex.ofSettings settings) :
    guard.protection.KeepsIndexOut action request resolved
        (guard.evaluate action request resolved summary).2.1
        (guard.evaluate action request resolved summary).2.2 ∧
      (guard.evaluate action request resolved summary).1.journal =
        guard.journal ++
          (if (guard.evaluate action request resolved summary).2.1 = .deny ∧
              guard.sink.admits .protectedIndexAttempt = true then
            [{ category := .protectedIndexAttempt, action, request := summary }]
          else []) ∧
      (guard.enforce action request resolved summary).2 =
        (if (guard.evaluate action request resolved summary).2.1 = .deny then
            .error (.protectedResourceDenied action settings.name)
          else .ok (),
          (guard.evaluate action request resolved summary).2.2) := by
  have concrete : ProtectedIndexSettings.isConcrete guard.protection.index = true := by
    rw [protects]
    exact ProtectedIndexSettings.isConcrete_of_problems valid
  have decided := guard.protection.decide_decided action request resolved
  have index : guard.protection.index = settings.name := by
    rw [protects]
    rfl
  refine ⟨decided.keepsIndexOut concrete, guard.journal_evaluate action request resolved summary,
    ?_⟩
  rw [enforce_snd, index]

/-- A change to the settings of all indices goes on for all but the protected one, for one index
that exists as for any that will. -/
theorem evaluate_keepsIndexOut_all_indices :
    let settings : ProtectedIndexSettings := { filterMode := true }
    let guard := (Node.start {} { protectedIndex := settings }).guard
    let request : IndicesRequest := { targets := ["_all"], realtime := some true }
    let evaluated := guard.evaluate "indices:admin/settings/update" request .all {}
    settings.problems = [] ∧ guard.protection = ProtectedIndex.ofSettings settings ∧
      evaluated.2.1 = .filter ["*", "-.sg-config"] ∧
      evaluated.2.2 = { targets := ["*", "-.sg-config"], realtime := some true } ∧
      (∀ existing, (TargetReading.plain existing).selection ["*", "-.sg-config"] =
        existing \ {".sg-config"}) ∧
      evaluated.1.journal = [] := by
  intro settings guard request evaluated
  have valid : settings.problems = [] := by decide
  have filtered : evaluated.2.1 = .filter ["*", "-.sg-config"] := by decide
  obtain ⟨kept, journal, _⟩ := evaluate_keepsIndexOut guard "indices:admin/settings/update" request
    .all {} settings valid rfl
  refine ⟨valid, rfl, filtered, kept.frameFilter _ filtered, fun existing => ?_, ?_⟩
  · exact kept.keepsRest _ rfl filtered existing (TargetReading.plain existing)
  · rw [journal]
    change [] ++ (if evaluated.2.1 = .deny ∧ _ then _ else _) = []
    simp [filtered]

end Guard

end NodeGate
