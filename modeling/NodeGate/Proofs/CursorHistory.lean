import Mathlib.Data.Set.Card
import NodeGate.Node
import NodeGate.Proofs.Guard
import NodeGate.Proofs.NameMap

/-!
# Cursors follow their history

The record of a cursor is that of its first creator since it was last closed
(`owner?_run`), so everything a guard answers about a cursor is settled by the operations it went
through. `run_followsHistory` spells this out: who may go on with a cursor and who is told what,
that asking changes nothing, that cursors do not interfere, what closing gives back and how many
cursors are open.
-/

namespace NodeGate

namespace Guard.Operation

/-- The cursor that an operation is about. -/
def cursor? : Operation → Option String
  | .createCursor cursor _ => some cursor
  | .validateCursor cursor _ _ => some cursor
  | .closeCursor cursor => some cursor
  | _ => none

/-- Whether an operation closes a cursor. -/
def closes (cursor : String) : Operation → Bool
  | .closeCursor closed => closed = cursor
  | _ => false

/-- The context under which an operation creates a cursor, if it does. -/
def creation? (cursor : String) : Operation → Option SecurityContext
  | .createCursor created context => if created = cursor then some context else none
  | _ => none

/-- The operations after the last one that closed a cursor. -/
def sinceClosed (cursor : String) (operations : List Operation) : List Operation :=
  (operations.reverse.takeWhile fun operation => !operation.closes cursor).reverse

/-- The context of the first creation of a cursor since it was last closed. -/
def creator? (cursor : String) (operations : List Operation) : Option SecurityContext :=
  (sinceClosed cursor operations).findSome? (creation? cursor)

/-- A closing begins the history of a cursor anew, and a creation counts when it is the first. -/
theorem creator?_append_singleton (cursor : String) (operations : List Operation)
    (operation : Operation) :
    creator? cursor (operations ++ [operation]) =
      if operation.closes cursor then none
      else (creator? cursor operations).or (operation.creation? cursor) := by
  simp only [creator?, sinceClosed, List.reverse_append, List.reverse_cons, List.reverse_nil,
    List.nil_append, List.singleton_append, List.takeWhile_cons]
  cases operation.closes cursor with
  | true => rfl
  | false =>
      simp only [Bool.not_false, if_true, List.reverse_cons, List.findSome?_append,
        List.findSome?_singleton, Bool.false_eq_true, if_false]

end Guard.Operation

open Guard Guard.Operation

namespace CursorLedger

/-- A creation gives a cursor its owner, unless it has one, and no other cursor anything. -/
theorem owner?_create (ledger : CursorLedger) (cursor other : String)
    (context : SecurityContext) :
    (ledger.create cursor context).owner? other =
      if other = cursor then (ledger.owner? cursor).or (some (CursorOwner.ofContext context))
      else ledger.owner? other := by
  unfold create
  split
  · rename_i owner found
    by_cases same : other = cursor
    · rw [if_pos same, same, found]
      rfl
    · rw [if_neg same]
  · rename_i absent
    rw [absent]
    exact NameMap.get?_insert ledger.owners cursor other _

/-- A closing takes a cursor's owner away, and nothing from another cursor. -/
theorem owner?_close (ledger : CursorLedger) (cursor other : String) :
    (ledger.close cursor).owner? other =
      if other = cursor then none else ledger.owner? other :=
  NameMap.get?_erase ledger.owners cursor other

/-- What an operation makes of the record of a cursor. -/
theorem owner?_after (ledger : CursorLedger) (operation : Operation) (cursor : String) :
    (ledger.after operation).owner? cursor =
      if operation.closes cursor then none
      else
        (ledger.owner? cursor).or ((operation.creation? cursor).map CursorOwner.ofContext) := by
  cases operation with
  | createCursor created context =>
      rw [after, owner?_create, creation?]
      by_cases same : created = cursor
      · subst same
        simp [closes]
      · have other : cursor ≠ created := Ne.symm same
        simp [closes, same, other]
  | closeCursor closed =>
      rw [after, owner?_close]
      by_cases same : closed = cursor
      · subst same
        simp [closes]
      · have other : cursor ≠ closed := Ne.symm same
        simp [closes, creation?, same, other]
  | receive | evaluate | enforce | validateCursor => simp [after, closes, creation?]

end CursorLedger

/-- The record of a cursor is that of its first creator since it was last closed. -/
theorem owner?_run {guard : Guard} (fresh : guard.cursors = {}) (operations : List Operation)
    (cursor : String) :
    (guard.run operations).cursors.owner? cursor =
      (creator? cursor operations).map CursorOwner.ofContext := by
  induction operations using List.reverseRecOn with
  | nil =>
      rw [run, List.foldl_nil, fresh]
      rfl
  | append_singleton operations operation inductionHypothesis =>
      rw [run_append_singleton, perform_cursors, CursorLedger.owner?_after, inductionHypothesis,
        creator?_append_singleton]
      cases operation.closes cursor with
      | true => rfl
      | false => cases creator? cursor operations <;> rfl

/-- A context may go on with a cursor that another one created: the cluster itself with a cursor
of its own, and a caller with one that was created under the same identity. -/
def MayContinue (creator context : SecurityContext) : Prop :=
  creator.isLocallyAuthorized = true ∧ context.isLocallyAuthorized = true ∨
    creator.isLocallyAuthorized = false ∧
      ∃ owner caller, creator.identity = some owner ∧ context.identity = some caller ∧
        caller.name = owner.name ∧ caller.backendRoles = owner.backendRoles ∧
        caller.attributes = owner.attributes

/-- A context leaves the cursors that it creates without an owner. -/
def LeavesNoOwner (creator : SecurityContext) : Prop :=
  creator.isLocallyAuthorized = false ∧ creator.identity = none

namespace CursorOwner

/-- Who passes the check of a record that a context left. -/
theorem check_ofContext_eq_ok_iff (creator context : SecurityContext) :
    check (some (ofContext creator)) context = .ok () ↔ MayContinue creator context := by
  unfold ofContext MayContinue
  cases creator.isLocallyAuthorized with
  | true => simp [check]
  | false =>
      cases creator.identity with
      | none => simp [check]
      | some owner =>
          have given : check (some (.identity (some owner))) context = .ok () ↔
              context.identity = some owner := by
            by_cases same : context.identity = some owner <;> simp [check, same]
          simp only [Bool.false_eq_true, if_false, given, false_and, false_or, true_and]
          -- Identities are equal when their three parts are.
          constructor
          · intro same
            exact ⟨owner, owner, rfl, same, rfl, rfl, rfl⟩
          · rintro ⟨_, ⟨_, _, _⟩, ⟨⟩, same, rfl, rfl, rfl⟩
            exact same

/-- Which records have no owner to compare with. -/
theorem check_ofContext_eq_noCursorOwner_iff (creator context : SecurityContext) :
    check (some (ofContext creator)) context = .error .noCursorOwner ↔
      LeavesNoOwner creator := by
  unfold ofContext LeavesNoOwner
  cases creator.isLocallyAuthorized with
  | true => cases local' : context.isLocallyAuthorized <;> simp [check, local']
  | false =>
      cases creator.identity with
      | none => simp [check]
      | some owner =>
          by_cases same : context.identity = some owner <;> simp [check, same]

/-- A check has three answers. -/
theorem check_cases (owner : Option CursorOwner) (context : SecurityContext) :
    check owner context = .ok () ∨ check owner context = .error .noCursorOwner ∨
      check owner context = .error .cursorOwnershipMismatch := by
  unfold check
  split
  · split <;> simp
  · split <;> simp
  · simp
  · simp

end CursorOwner

/-- An operation about another cursor, or about none, leaves the record of a cursor alone. -/
theorem owner?_after_of_cursor?_ne (ledger : CursorLedger) {operation : Operation}
    {cursor : String} (other : operation.cursor? ≠ some cursor) :
    (ledger.after operation).owner? cursor = ledger.owner? cursor := by
  rw [CursorLedger.owner?_after]
  cases operation with
  | createCursor created context =>
      have different : created ≠ cursor := by simpa [cursor?] using other
      simp [closes, creation?, different]
  | closeCursor closed =>
      have different : closed ≠ cursor := by simpa [cursor?] using other
      simp [closes, creation?, different]
  | receive | evaluate | enforce | validateCursor => simp [closes, creation?]

/-- The answer about a cursor is read off its record. -/
theorem validateCursor_snd (guard : Guard) (cursor : String) (context : SecurityContext)
    (summary : RequestSummary) :
    (guard.validateCursor cursor context summary).2 =
      CursorOwner.check (guard.cursors.owner? cursor) context := by
  unfold Guard.validateCursor CursorLedger.validate
  rcases CursorOwner.check_cases (guard.cursors.owner? cursor) context with passed | refused |
    refused
  · rw [passed]
  · rw [refused]
  · rw [refused]

/-- A ledger has as many open cursors as there are cursors with a record. -/
theorem encard_owner? (ledger : CursorLedger) :
    Set.encard {cursor | (ledger.owner? cursor).isSome} = ledger.openCursors := by
  simp only [Option.isSome_iff_exists]
  exact ledger.owners.encard_get?

/-- A guard answers about cursors as its operations have it. -/
structure FollowsHistory (guard : Guard) (operations : List Operation) : Prop where
  /-- Who may go on: whom the first creator since the last closing lets. -/
  validate_ok_iff : ∀ cursor context summary,
    (guard.validateCursor cursor context summary).2 = .ok () ↔
      ∃ creator, creator? cursor operations = some creator ∧ MayContinue creator context
  /-- Who is told that there is no owner: everybody, where nobody created the cursor or its
  creator left it without an owner. -/
  validate_noCursorOwner_iff : ∀ cursor context summary,
    (guard.validateCursor cursor context summary).2 = .error .noCursorOwner ↔
      creator? cursor operations = none ∨
        ∃ creator, creator? cursor operations = some creator ∧ LeavesNoOwner creator
  /-- Everybody else is told that the owner is another one. -/
  validate_mismatch : ∀ cursor context summary,
    (guard.validateCursor cursor context summary).2 ≠ .ok () →
      (guard.validateCursor cursor context summary).2 ≠ .error .noCursorOwner →
        (guard.validateCursor cursor context summary).2 = .error .cursorOwnershipMismatch
  /-- Asking changes no record. -/
  validate_cursors : ∀ cursor context summary,
    (guard.validateCursor cursor context summary).1.cursors = guard.cursors
  /-- What is done about other cursors changes neither the record nor any answer. -/
  apart : ∀ cursor operation, operation.cursor? ≠ some cursor →
    (guard.perform operation).1.cursors.owner? cursor = guard.cursors.owner? cursor ∧
      ∀ context summary, ((guard.perform operation).1.validateCursor cursor context summary).2 =
        (guard.validateCursor cursor context summary).2
  /-- Closing gives back the record of the first creator since the last closing. -/
  close_snd : ∀ cursor, (guard.closeCursor cursor).2 =
    (creator? cursor operations).map CursorOwner.ofContext
  /-- The open cursors are those that were created since they were last closed. -/
  openCursors : Set.encard {cursor | (creator? cursor operations).isSome} =
    guard.cursors.openCursors

/-- A guard that begins without cursors follows its history. -/
theorem run_followsHistory (guard : Guard) (fresh : guard.cursors = {})
    (operations : List Operation) : FollowsHistory (guard.run operations) operations where
  validate_ok_iff cursor context summary := by
    rw [validateCursor_snd, owner?_run fresh]
    cases creator? cursor operations with
    | none => simp [CursorOwner.check]
    | some creator => simp [CursorOwner.check_ofContext_eq_ok_iff]
  validate_noCursorOwner_iff cursor context summary := by
    rw [validateCursor_snd, owner?_run fresh]
    cases creator? cursor operations with
    | none => simp [CursorOwner.check]
    | some creator => simp [CursorOwner.check_ofContext_eq_noCursorOwner_iff]
  validate_mismatch cursor context summary notPassed notOwnerless := by
    rw [validateCursor_snd] at notPassed notOwnerless ⊢
    exact ((CursorOwner.check_cases _ context).resolve_left notPassed).resolve_left notOwnerless
  validate_cursors cursor context summary := by
    rw [validateCursor_fst]
    exact (noteAll_rest _ _).2
  apart cursor operation other := by
    have record : ((guard.run operations).perform operation).1.cursors.owner? cursor =
        (guard.run operations).cursors.owner? cursor := by
      rw [perform_cursors, owner?_after_of_cursor?_ne _ other]
    refine ⟨record, fun context summary => ?_⟩
    rw [validateCursor_snd, validateCursor_snd, record]
  close_snd cursor := owner?_run fresh operations cursor
  openCursors := by
    rw [← encard_owner?]
    simp only [owner?_run fresh, Option.isSome_map]

/-- A cursor that is closed and created again belongs to the first who created it again. -/
theorem run_followsHistory_created_again :
    let guard := (Node.start {} {}).guard
    let kirk : SecurityContext :=
      { action := "search", actionClass := "SearchRequest", identity := some { name := "kirk" } }
    let spock : SecurityContext :=
      { action := "search", actionClass := "SearchRequest", identity := some { name := "spock" } }
    let operations : List Operation :=
      [.createCursor "cursor" kirk, .closeCursor "cursor", .createCursor "cursor" spock,
        .createCursor "cursor" kirk]
    guard.cursors = {} ∧ FollowsHistory (guard.run operations) operations ∧
      creator? "cursor" operations = some spock := by
  intro guard kirk spock operations
  exact ⟨rfl, run_followsHistory guard rfl operations, rfl⟩

end NodeGate
