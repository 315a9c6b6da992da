import NodeGate.Proofs.CursorHistory
import NodeGate.Proofs.HeaderValue

/-!
# Identities as they are built

An identity is built from a name by adding lists of roles and setting attributes, step by step. It
says which roles were added and to what each attribute was set last (`mem_backendRoles_build`,
`get?_attributes_build`), and nothing about the order in which that happened. So identities that
were built alike are written alike and share their cursors, and others do neither
(`build_oneWireForm`).
-/

namespace NodeGate

namespace Identity

/-- One step in building an identity. -/
inductive BuildStep where
  | addRoles (roles : List String)
  | setAttribute (key value : String)

namespace BuildStep

/-- The identity after a step. -/
def apply (identity : Identity) : BuildStep → Identity
  | .addRoles roles => identity.withBackendRoles roles
  | .setAttribute key value => identity.withAttribute key value

/-- The roles that a step adds. -/
def addedRoles : BuildStep → List String
  | .addRoles roles => roles
  | .setAttribute _ _ => []

/-- What a step sets an attribute to, if it does. -/
def value? (key : String) : BuildStep → Option String
  | .addRoles _ => none
  | .setAttribute set value => if set = key then some value else none

end BuildStep

/-- The identity of a name after steps, in order. -/
def build (name : String) (steps : List BuildStep) : Identity :=
  steps.foldl BuildStep.apply { name }

/-- What steps set an attribute to last, if they do. -/
def lastValue? (key : String) (steps : List BuildStep) : Option String :=
  steps.reverse.findSome? (BuildStep.value? key)

/-- Identities are equal when they have the same name, the same roles and the same attributes. -/
theorem ext_views {left right : Identity} (name : left.name = right.name)
    (roles : ∀ role, role ∈ left.backendRoles ↔ role ∈ right.backendRoles)
    (attributes : ∀ key, left.attributes.get? key = right.attributes.get? key) : left = right := by
  cases left
  cases right
  cases name
  cases NameSet.ext_mem roles
  cases NameMap.ext_get? attributes
  rfl

namespace BuildStep

variable (identity : Identity) (step : BuildStep)

/-- A step leaves the name. -/
theorem name_apply : (apply identity step).name = identity.name := by
  cases step <;> rfl

/-- A step adds its roles and takes none away. -/
theorem mem_backendRoles_apply {role : String} :
    role ∈ (apply identity step).backendRoles ↔
      role ∈ identity.backendRoles ∨ role ∈ step.addedRoles := by
  cases step with
  | addRoles roles => exact NameSet.mem_insertAll.trans or_comm
  | setAttribute key value => simp [apply, withAttribute, addedRoles]

/-- A step sets the attribute that it is about, and leaves the others. -/
theorem get?_attributes_apply (key : String) :
    (apply identity step).attributes.get? key =
      (step.value? key).or (identity.attributes.get? key) := by
  cases step with
  | addRoles roles => rfl
  | setAttribute set value =>
      simp only [apply, withAttribute, NameMap.get?_insert, value?]
      by_cases same : set = key
      · simp [same]
      · simp [same, Ne.symm same]

end BuildStep

/-- Building goes on by one step. -/
theorem build_append_singleton (name : String) (steps : List BuildStep) (step : BuildStep) :
    build name (steps ++ [step]) = BuildStep.apply (build name steps) step :=
  List.foldl_append

/-- An identity has the name it was built from. -/
theorem name_build (name : String) (steps : List BuildStep) : (build name steps).name = name := by
  induction steps using List.reverseRecOn with
  | nil => rfl
  | append_singleton steps step inductionHypothesis =>
      rw [build_append_singleton, BuildStep.name_apply, inductionHypothesis]

/-- An identity has the roles that some step added. -/
theorem mem_backendRoles_build {name role : String} {steps : List BuildStep} :
    role ∈ (build name steps).backendRoles ↔ role ∈ steps.flatMap BuildStep.addedRoles := by
  induction steps using List.reverseRecOn with
  | nil => exact Iff.rfl
  | append_singleton steps step inductionHypothesis =>
      rw [build_append_singleton, BuildStep.mem_backendRoles_apply, inductionHypothesis]
      simp

/-- An identity has the attributes that some step set, each with the value that was set last. -/
theorem get?_attributes_build (name key : String) (steps : List BuildStep) :
    (build name steps).attributes.get? key = lastValue? key steps := by
  induction steps using List.reverseRecOn with
  | nil => rfl
  | append_singleton steps step inductionHypothesis =>
      rw [build_append_singleton, BuildStep.get?_attributes_apply, inductionHypothesis, lastValue?,
        lastValue?, List.reverse_append, List.findSome?_append, List.reverse_singleton,
        List.findSome?_singleton]

/-- Two ways to build an identity say the same: they begin with one name, add the same roles and set
every attribute to the same value last. -/
structure SaySame (name : String) (steps : List BuildStep) (other : String)
    (others : List BuildStep) : Prop where
  name : name = other
  roles : ∀ role, role ∈ steps.flatMap BuildStep.addedRoles ↔
    role ∈ others.flatMap BuildStep.addedRoles
  attributes : ∀ key, lastValue? key steps = lastValue? key others

variable {name other : String} {steps others : List BuildStep}

/-- What is built is equal exactly if the ways to build it say the same. -/
theorem build_eq_iff : build name steps = build other others ↔ SaySame name steps other others := by
  constructor
  · intro same
    refine ⟨?_, fun role => ?_, fun key => ?_⟩
    · rw [← name_build name steps, same, name_build]
    · rw [← mem_backendRoles_build, same, mem_backendRoles_build]
    · rw [← get?_attributes_build name, same, get?_attributes_build]
  · intro same
    apply ext_views
    · rw [name_build, name_build, same.name]
    · intro role
      rw [mem_backendRoles_build, mem_backendRoles_build, same.roles]
    · intro key
      rw [get?_attributes_build, get?_attributes_build, same.attributes]

end Identity

open Identity Guard Guard.Operation

/-- A cursor that was created under an identity goes on under it alone, whatever else is known of
the context. -/
theorem CursorOwner.check_ofContext_of_identity {creator context : SecurityContext}
    {owner caller : Identity} (foreign : creator.isLocallyAuthorized = false)
    (owned : creator.identity = some owner) (called : context.identity = some caller) :
    check (some (ofContext creator)) context =
      if caller = owner then .ok () else .error .cursorOwnershipMismatch := by
  simp [ofContext, foreign, owned, check, called]

/-- An identity has one form, and one on the wire. Two ways to build identities lead to equal ones,
and to equal header values, exactly if they say the same; and then a cursor that was created under
the one goes on under the other. If they do not say the same, it is refused. -/
theorem build_oneWireForm (name other : String) (steps others : List BuildStep) :
    (build name steps = build other others ↔ SaySame name steps other others) ∧
      (HeaderValue.encodeIdentity (build name steps) =
          HeaderValue.encodeIdentity (build other others) ↔ SaySame name steps other others) ∧
      ∀ (guard : Guard) operations cursor creator context summary, guard.cursors = {} →
        creator? cursor operations = some creator → creator.isLocallyAuthorized = false →
          creator.identity = some (build name steps) →
            context.identity = some (build other others) →
              (SaySame name steps other others →
                ((guard.run operations).validateCursor cursor context summary).2 = .ok ()) ∧
              (¬ SaySame name steps other others →
                ((guard.run operations).validateCursor cursor context summary).2 =
                  .error .cursorOwnershipMismatch) := by
  refine ⟨build_eq_iff, ?_, ?_⟩
  · rw [← build_eq_iff]
    exact ⟨HeaderValue.encodeIdentity_injective, congrArg HeaderValue.encodeIdentity⟩
  · intro guard operations cursor creator context summary fresh created foreign owned called
    rw [validateCursor_snd, owner?_run fresh, created, Option.map_some,
      CursorOwner.check_ofContext_of_identity foreign owned called, ← build_eq_iff]
    refine ⟨fun same => if_pos same.symm, fun different => if_neg fun same => ?_⟩
    exact different same.symm

/-- A user who is described in another order goes on with the cursor, and one with a role less does
not. -/
theorem build_oneWireForm_other_order :
    let context (identity : Identity) : SecurityContext :=
      { action := "indices:data/read/scroll", actionClass := "SearchScrollRequest",
        identity := some identity }
    let kirk := build "kirk" [.addRoles ["captain", "admin"], .setAttribute "ship" "reliant",
      .setAttribute "ship" "enterprise"]
    let again := build "kirk" [.setAttribute "ship" "enterprise", .addRoles ["admin", "admin"],
      .addRoles ["captain"]]
    let demoted := build "kirk" [.setAttribute "ship" "enterprise", .addRoles ["captain"]]
    let guard := (Node.start {} {}).guard.run [.createCursor "cursor" (context kirk)]
    HeaderValue.encodeIdentity kirk = HeaderValue.encodeIdentity again ∧
      HeaderValue.encodeIdentity kirk ≠ HeaderValue.encodeIdentity demoted ∧
      (guard.validateCursor "cursor" (context again) {}).2 = .ok () ∧
      (guard.validateCursor "cursor" (context demoted) {}).2 =
        .error .cursorOwnershipMismatch := by
  intro context kirk again demoted guard
  have same := build_eq_iff.1 (show kirk = again by decide)
  have different := mt build_eq_iff.2 (show kirk ≠ demoted by decide)
  obtain ⟨_, header, cursors⟩ := build_oneWireForm _ _ _ _
  obtain ⟨_, otherHeader, otherCursors⟩ := build_oneWireForm _ _ _ _
  exact ⟨header.2 same, mt otherHeader.1 different,
    (cursors (Node.start {} {}).guard _ "cursor" (context kirk) _ _ rfl rfl rfl rfl rfl).1 same,
    (otherCursors (Node.start {} {}).guard _ "cursor" (context kirk) _ _ rfl rfl rfl rfl rfl).2
      different⟩

end NodeGate
