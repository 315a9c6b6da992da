import Mathlib.Data.List.Induction
import Mathlib.Data.List.Nodup
import Mathlib.Data.Set.Card
import NodeGate.InFlight

/-!
# The places in flight are those of the holders

A name holds a place when it was tracked and has not been dropped since, and a register keeps
exactly these names (`mem_holders_run`). Its number is theirs (`Counted.after`), whatever was
tracked again or dropped in vain on the way. `run_countsHolders` adds what the gauge shows, that no
step takes away a place that is not there, and that nothing is left when every holder has left.
-/

namespace NodeGate

namespace InFlight

/-- One change of the number of requests under way. -/
inductive Move where
  | enter
  | leave
  deriving DecidableEq

/-- The number after a change. -/
def move (inFlight : InFlight) : Move → InFlight
  | .enter => inFlight.enter
  | .leave => inFlight.leave

/-- The gauge shows the number. -/
def Shown (inFlight : InFlight) : Prop :=
  inFlight.metrics.value? .inFlight = some inFlight.active

/-- Every change is shown. -/
theorem shown_move (inFlight : InFlight) (change : Move) : (inFlight.move change).Shown := by
  cases change <;> exact (Metrics.value?_set _ _ _ _).trans (if_pos rfl)

end InFlight

namespace HolderRegister

open InFlight

/-- What can happen to a register. -/
inductive Step where
  | track (name : String)
  | drop (name : String)

/-- The register after a step. -/
def after (register : HolderRegister) : Step → HolderRegister
  | .track name => register.track name
  | .drop name => register.drop name

/-- The register after steps, in order. -/
def run (register : HolderRegister) (steps : List Step) : HolderRegister :=
  steps.foldl after register

/-- The changes of the number that a step makes, in order: a holder that is tracked again enters
before it leaves, and a name that holds nothing makes no change when it is dropped. -/
def moves (register : HolderRegister) : Step → List Move
  | .track name => if name ∈ register.holders then [.enter, .leave] else [.enter]
  | .drop name => if name ∈ register.holders then [.leave] else []

/-- A name holds a place after steps: it was tracked and not dropped since. -/
def Holds (steps : List Step) (name : String) : Prop :=
  ∃ before later, steps = before ++ .track name :: later ∧ .drop name ∉ later

section Holds

variable {steps : List Step} {name : String}

/-- Tracking gives a place to one name, and dropping takes it from one. -/
theorem holds_append_singleton {step : Step} :
    Holds (steps ++ [step]) name ↔
      step = .track name ∨ Holds steps name ∧ step ≠ .drop name := by
  constructor
  · rintro ⟨before, later, whole, kept⟩
    cases later using List.reverseRecOn with
    | nil => exact .inl (List.singleton_inj.1 (List.append_inj' whole rfl).2)
    | append_singleton later last =>
        rw [← List.cons_append, ← List.append_assoc] at whole
        obtain ⟨front, back⟩ := List.append_inj' whole rfl
        rw [List.mem_append, List.mem_singleton, not_or] at kept
        rw [List.singleton_inj.1 back]
        exact .inr ⟨⟨before, later, front, kept.1⟩, Ne.symm kept.2⟩
  · rintro (rfl | ⟨⟨before, later, rfl, kept⟩, other⟩)
    · exact ⟨steps, [], rfl, List.not_mem_nil⟩
    · refine ⟨before, later ++ [step], by simp, ?_⟩
      rw [List.mem_append, List.mem_singleton, not_or]
      exact ⟨kept, Ne.symm other⟩

/-- Whoever is dropped in the end holds no place, and whoever is not keeps it. -/
theorem holds_append_drops {names : List String} :
    Holds (steps ++ names.map .drop) name ↔ Holds steps name ∧ name ∉ names := by
  induction names using List.reverseRecOn with
  | nil => simp
  | append_singleton names last inductionHypothesis =>
      rw [List.map_append, List.map_singleton, ← List.append_assoc, holds_append_singleton,
        inductionHypothesis, List.mem_append, List.mem_singleton, not_or]
      simp only [reduceCtorEq, false_or, ne_eq, Step.drop.injEq, and_assoc, eq_comm]

end Holds

section Step

variable {register : HolderRegister} {step : Step} {name : String}

/-- A step makes its changes of the number and no others. -/
theorem inFlight_after :
    (register.after step).inFlight = (register.moves step).foldl move register.inFlight := by
  cases step with
  | track name =>
      rw [after, track, moves]
      split <;> rfl
  | drop name =>
      rw [after, drop, moves]
      split <;> rfl

/-- Tracking adds one name to the holders, and dropping takes one away. -/
theorem mem_holders_after :
    name ∈ (register.after step).holders ↔
      step = .track name ∨ name ∈ register.holders ∧ step ≠ .drop name := by
  cases step with
  | track tracked =>
      rw [after, track]
      split
      · rename_i held
        simp only [Step.track.injEq, ne_eq, reduceCtorEq, not_false_eq_true, and_true]
        exact ⟨.inr, fun either => either.elim (fun same => same ▸ held) id⟩
      · simp [eq_comm (a := name)]
  | drop dropped =>
      rw [after, drop]
      split
      · simp [eq_comm (a := name)]
      · rename_i free
        simp only [reduceCtorEq, false_or, ne_eq, Step.drop.injEq]
        exact ⟨fun held => ⟨held, fun same => free (same ▸ held)⟩, And.left⟩

/-- The number is shown after a step that makes a change. -/
theorem shown_after (changes : register.moves step ≠ []) :
    (register.after step).inFlight.Shown := by
  obtain ⟨earlier, last, whole⟩ := (List.eq_nil_or_concat' _).resolve_left changes
  rw [inFlight_after, whole, List.foldl_append]
  exact shown_move _ last

/-- The number is that of the holders, each of which is there once. -/
structure Counted (register : HolderRegister) : Prop where
  nodup : register.holders.Nodup
  active : register.inFlight.active = register.holders.length

/-- A step keeps the number that of the holders. -/
theorem Counted.after (counted : register.Counted) : (register.after step).Counted := by
  obtain ⟨nodup, active⟩ := counted
  cases step with
  | track name =>
      rw [HolderRegister.after, track]
      split
      · exact ⟨nodup, by simp [enter, leave, setActive, active]⟩
      · rename_i free
        exact ⟨List.nodup_cons.2 ⟨free, nodup⟩, by simp [enter, setActive, active]⟩
  | drop name =>
      rw [HolderRegister.after, drop]
      split
      · rename_i held
        refine ⟨nodup.filter _, ?_⟩
        have oneLess := List.length_erase_of_mem held
        rw [nodup.erase_eq_filter] at oneLess
        rw [leave, setActive, active, ← oneLess]
        exact congrArg List.length (List.filter_congr fun other _ => by rw [decide_not]; rfl)
      · exact ⟨nodup, active⟩

/-- A place is taken away only where there is one. -/
theorem Counted.active_pos (counted : register.Counted) {before rest : List Move}
    (leaves : register.moves step = before ++ .leave :: rest) :
    0 < (before.foldl move register.inFlight).active := by
  cases step with
  | track name =>
      -- Only a holder that is tracked again leaves, and it has entered just before.
      have entered : before = [.enter] := by
        rw [moves] at leaves
        split at leaves
        all_goals
          rcases before with _ | ⟨first, _ | ⟨second, others⟩⟩ <;> simp_all
      rw [entered]
      exact Nat.succ_pos _
  | drop name =>
      rw [moves] at leaves
      split at leaves
      · rename_i held
        have first : before = [] := by
          rcases before with _ | ⟨first, others⟩ <;> simp_all
        rw [first, List.foldl_nil, counted.active]
        exact List.length_pos_of_mem held
      · exact absurd leaves.symm (by simp)

end Step

variable (steps : List Step)

/-- The register after steps and one more. -/
theorem run_append_singleton (register : HolderRegister) (step : Step) :
    register.run (steps ++ [step]) = (register.run steps).after step := by
  simp [run]

/-- The holders are the names that hold a place. -/
theorem mem_holders_run {name : String} :
    name ∈ (run {} steps).holders ↔ Holds steps name := by
  induction steps using List.reverseRecOn with
  | nil => simp [run, Holds]
  | append_singleton steps step inductionHypothesis =>
      rw [run_append_singleton, mem_holders_after, holds_append_singleton, inductionHypothesis]

/-- The number is always that of the holders. -/
theorem counted_run : (run {} steps).Counted := by
  induction steps using List.reverseRecOn with
  | nil => exact ⟨List.nodup_nil, rfl⟩
  | append_singleton steps step inductionHypothesis =>
      rw [run_append_singleton]
      exact inductionHypothesis.after

/-- There are as many requests under way as names that hold a place. -/
theorem active_run : (run {} steps).inFlight.active = Set.encard {name | Holds steps name} := by
  have held : {name | Holds steps name} = ((run {} steps).holders.toFinset : Set String) := by
    ext name
    simp only [Set.mem_ofPred_eq, List.coe_toFinset, mem_holders_run]
  obtain ⟨nodup, active⟩ := counted_run steps
  rw [held, Set.encard_coe_eq_coe_finsetCard, List.toFinset_card_of_nodup nodup, active]

/-- The gauge is set by the first name that is tracked, and shows the number from then on. -/
theorem value?_run_eq_some_iff {shown : Nat} :
    (run {} steps).inFlight.metrics.value? .inFlight = some shown ↔
      (∃ name, .track name ∈ steps) ∧ shown = (run {} steps).inFlight.active := by
  induction steps using List.reverseRecOn with
  | nil => simp [run, Metrics.value?, Metrics.find]
  | append_singleton steps step inductionHypothesis =>
      rw [run_append_singleton]
      by_cases idle : (run {} steps).moves step = []
      · -- Only a name that holds nothing makes no change, and it is not tracked but dropped.
        have dropped (name : String) : step ≠ .track name := by
          rintro rfl
          rw [moves] at idle
          split at idle <;> cases idle
        rw [inFlight_after, idle, List.foldl_nil, inductionHypothesis]
        simp [List.mem_append, Ne.symm (dropped _)]
      · have tracked : ∃ name, .track name ∈ steps ++ [step] := by
          cases step with
          | track name => exact ⟨name, by simp⟩
          | drop name =>
              have held : Holds steps name := by
                rw [moves] at idle
                rw [← mem_holders_run]
                by_contra free
                exact idle (if_neg free)
              obtain ⟨before, later, rfl, _⟩ := held
              exact ⟨name, by simp⟩
        rw [shown_after idle, Option.some.injEq, eq_comm]
        exact (and_iff_right tracked).symm

/-- The number in a register counts the names that hold a place after steps. -/
structure CountsHolders (register : HolderRegister) (steps : List Step) : Prop where
  /-- There are as many requests under way as names that hold a place. -/
  active : register.inFlight.active = Set.encard {name | Holds steps name}
  /-- The gauge shows the number once a name was tracked, and is not set before. -/
  gauge : ∀ shown, register.inFlight.metrics.value? .inFlight = some shown ↔
    (∃ name, .track name ∈ steps) ∧ shown = register.inFlight.active
  /-- What a further step makes of the number is what its changes make of it. -/
  moves : ∀ step,
    (register.after step).inFlight = (register.moves step).foldl move register.inFlight
  /-- Whenever one of them takes a place away, there is one to take. -/
  active_pos : ∀ step before rest, register.moves step = before ++ .leave :: rest →
    0 < (before.foldl move register.inFlight).active
  /-- Nothing is under way when all names that hold a place have been dropped, in any order. -/
  emptied : ∀ names : List String, (∀ name, Holds steps name → name ∈ names) →
    (register.run (names.map .drop)).inFlight.active = 0

/-- After any steps the number in a register counts the names that hold a place. -/
theorem run_countsHolders (steps : List Step) : CountsHolders (run {} steps) steps where
  active := active_run steps
  gauge shown := value?_run_eq_some_iff steps
  moves step := inFlight_after
  active_pos step before rest leaves := (counted_run steps).active_pos leaves
  emptied names all := by
    have nobody : {name | Holds (steps ++ names.map .drop) name} = ∅ := by
      ext name
      simp only [Set.mem_ofPred_eq, holds_append_drops, Set.mem_empty_iff_false, iff_false,
        not_and_not_right]
      exact all name
    have whole : run (run {} steps) (names.map .drop) = run {} (steps ++ names.map .drop) :=
      List.foldl_append.symm
    have counted := active_run (steps ++ names.map .drop)
    rw [nobody, Set.encard_empty, Nat.cast_eq_zero] at counted
    rw [whole, counted]

end HolderRegister

end NodeGate
