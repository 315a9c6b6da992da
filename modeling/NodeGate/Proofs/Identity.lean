import NodeGate.Identity
import NodeGate.Proofs.Json.Writing
import NodeGate.Proofs.NameMap

/-!
# Identities survive their trees

The tree of an identity is legible and is read as the same identity: roles come back as the same
set and attributes as the same map, and a member that was left out is read as empty
(`ofTree?_toTree`).
-/

namespace NodeGate.Identity

open NodeGate.Json

/-- A string that was spelled is read back. -/
@[simp] theorem unspellString_spellString (text : String) :
    unspellString (spellString text) = some text := by
  rw [unspellString, spellString, unspell_spell, Option.map_some, String.ofList_toList]

/-- The tree of a text is read as the text. -/
@[simp] theorem readText_textTree (text : String) : readText (textTree text) = some text :=
  unspellString_spellString text

/-- A list whose elements are each read back is read back. -/
theorem mapM_map_eq_some {First Second : Type} {write : First → Second}
    {read : Second → Option First} (inverse : ∀ element, read (write element) = some element)
    (elements : List First) : (elements.map write).mapM read = some elements := by
  induction elements with
  | nil => rfl
  | cons element rest inductionHypothesis => simp [inverse, inductionHypothesis]

/-- The array of a set of roles. -/
def rolesTree (roles : NameSet) : Tree :=
  .array (roles.toList.map textTree)

/-- The object of attributes. -/
def attributesTree (attributes : NameMap String) : Tree :=
  .object (attributes.entries.map fun entry => (spellString entry.1, textTree entry.2))

/-- The array of a set of roles is read as the set. -/
theorem readRoles_rolesTree (roles : NameSet) : readRoles (rolesTree roles) = some roles := by
  have rebuilt : NameSet.ofList roles.toList = roles := by
    apply NameSet.ext_mem
    intro name
    exact NameSet.mem_ofList
  rw [rolesTree, readRoles, mapM_map_eq_some readText_textTree, Option.map_some, rebuilt]

/-- The object of attributes is read as the attributes. -/
theorem readAttributes_attributesTree (attributes : NameMap String) :
    readAttributes (attributesTree attributes) = some attributes := by
  rw [attributesTree, readAttributes, mapM_map_eq_some (fun entry => by simp)]
  simp [NameMap.ofList_entries]

/-- The members of the tree of an identity under their keys. -/
def members (identity : Identity) : List (String × Tree) :=
  ("name", textTree identity.name) ::
    ((if identity.backendRoles.isEmpty then []
      else [("backend_roles", rolesTree identity.backendRoles)]) ++
    if identity.attributes.isEmpty then []
    else [("attributes", attributesTree identity.attributes)])

/-- The tree of an identity holds its members under spelled keys. -/
theorem toTree_eq_object (identity : Identity) :
    identity.toTree =
      .object (identity.members.map fun member => (spellString member.1, member.2)) := by
  unfold toTree members rolesMember attributesMember
  cases identity.backendRoles.isEmpty <;> cases identity.attributes.isEmpty <;> rfl

/-- The name is always found. -/
theorem soleMember_name (identity : Identity) :
    soleMember "name" identity.members = some (some (textTree identity.name)) := by
  unfold members
  cases identity.backendRoles.isEmpty <;> cases identity.attributes.isEmpty <;> rfl

/-- The roles are found unless there are none. -/
theorem soleMember_roles (identity : Identity) :
    soleMember "backend_roles" identity.members =
      some (if identity.backendRoles.isEmpty then none
        else some (rolesTree identity.backendRoles)) := by
  unfold members
  cases identity.backendRoles.isEmpty <;> cases identity.attributes.isEmpty <;> rfl

/-- The attributes are found unless there are none. -/
theorem soleMember_attributes (identity : Identity) :
    soleMember "attributes" identity.members =
      some (if identity.attributes.isEmpty then none
        else some (attributesTree identity.attributes)) := by
  unfold members
  cases identity.backendRoles.isEmpty <;> cases identity.attributes.isEmpty <;> rfl

/-- What a member under a key says: its value where there is one, and nothing else where there is
none. -/
inductive MemberSays {Content : Type} (members : List (String × Tree)) (key : String)
    (read : Tree → Option Content) (otherwise : Content) : Content → Prop where
  | absent (missing : soleMember key members = some none) :
      MemberSays members key read otherwise otherwise
  | present {tree : Tree} {content : Content} (found : soleMember key members = some (some tree))
      (meaning : read tree = some content) : MemberSays members key read otherwise content

/-- A member under the text that its key is read as. -/
def readKey (member : List UInt8 × Tree) : Option (String × Tree) :=
  (unspellString member.1).map fun key => (key, member.2)

/-- Members are read under the texts of their keys. -/
theorem ofTree?_eq_bind (members : List (List UInt8 × Tree)) :
    ofTree? (.object members) = (members.mapM readKey).bind fun entries => do
      let name ← readText (← ← soleMember "name" entries)
      let roles ← match ← soleMember "backend_roles" entries with
        | none => some NameSet.empty
        | some tree => readRoles tree
      let attributes ← match ← soleMember "attributes" entries with
        | none => some NameMap.empty
        | some tree => readAttributes tree
      return ⟨name, roles, attributes⟩ := by
  have keys : (fun member : List UInt8 × Tree => do
      return (← unspellString member.1, member.2)) = readKey := by
    funext member
    unfold readKey
    cases unspellString member.1 <;> rfl
  rw [ofTree?, keys]
  rfl

/-- Members are read as the identity that they describe. -/
theorem ofTree?_object {members : List (List UInt8 × Tree)} {entries : List (String × Tree)}
    {identity : Identity} {nameText : Tree} (keys : members.mapM readKey = some entries)
    (named : soleMember "name" entries = some (some nameText))
    (name : readText nameText = some identity.name)
    (roles : MemberSays entries "backend_roles" readRoles NameSet.empty identity.backendRoles)
    (attributes : MemberSays entries "attributes" readAttributes NameMap.empty
      identity.attributes) :
    ofTree? (.object members) = some identity := by
  obtain ⟨text, backendRoles, attributesMap⟩ := identity
  simp only at name roles attributes
  rw [ofTree?_eq_bind, keys]
  simp only [Option.bind_eq_bind, Option.bind_some, named, name]
  cases roles with
  | absent rolesMissing =>
      rw [rolesMissing]
      cases attributes with
      | absent attributesMissing =>
          rw [attributesMissing]
          rfl
      | present attributesFound attributesMeaning =>
          simp only [Option.bind_some, attributesFound, attributesMeaning]
          rfl
  | present rolesFound rolesMeaning =>
      rw [rolesFound]
      cases attributes with
      | absent attributesMissing =>
          simp only [Option.bind_some, rolesMeaning, attributesMissing]
          rfl
      | present attributesFound attributesMeaning =>
          simp only [Option.bind_some, rolesMeaning, attributesFound, attributesMeaning]
          rfl

/-- The member of the roles says which they are. -/
theorem memberSays_roles (identity : Identity) :
    MemberSays identity.members "backend_roles" readRoles NameSet.empty
      identity.backendRoles := by
  have found := soleMember_roles identity
  cases none : identity.backendRoles.isEmpty with
  | true =>
      have noRoles : identity.backendRoles = NameSet.empty :=
        NameSet.ext (List.isEmpty_iff.1 none)
      rw [none] at found
      rw [noRoles]
      exact .absent found
  | false =>
      rw [none] at found
      exact .present found (readRoles_rolesTree identity.backendRoles)

/-- The member of the attributes says which they are. -/
theorem memberSays_attributes (identity : Identity) :
    MemberSays identity.members "attributes" readAttributes NameMap.empty
      identity.attributes := by
  have found := soleMember_attributes identity
  cases none : identity.attributes.isEmpty with
  | true =>
      have noAttributes : identity.attributes = NameMap.empty :=
        NameMap.ext (List.isEmpty_iff.1 none)
      rw [none] at found
      rw [noAttributes]
      exact .absent found
  | false =>
      rw [none] at found
      exact .present found (readAttributes_attributesTree identity.attributes)

/-- The tree of an identity is read as the identity. -/
theorem ofTree?_toTree (identity : Identity) : ofTree? identity.toTree = some identity := by
  have keys : (identity.members.map fun member => (spellString member.1, member.2)).mapM readKey =
      some identity.members :=
    mapM_map_eq_some (fun member => by simp [readKey]) identity.members
  rw [toTree_eq_object]
  exact ofTree?_object keys identity.soleMember_name (readText_textTree identity.name)
    identity.memberSays_roles identity.memberSays_attributes

/-- The tree of a text is legible. -/
theorem legible_textTree (text : String) : Legible (textTree text) :=
  .string (wholeSpelling_spellString text)

/-- The tree of an identity is legible. -/
theorem legible_toTree (identity : Identity) : Legible identity.toTree := by
  have roles : Legible (rolesTree identity.backendRoles) := by
    apply Legible.array
    intro item member
    obtain ⟨role, _, rfl⟩ := List.mem_map.1 member
    exact legible_textTree role
  have attributes : Legible (attributesTree identity.attributes) := by
    apply Legible.object
    · intro pair member
      obtain ⟨entry, _, rfl⟩ := List.mem_map.1 member
      exact wholeSpelling_spellString entry.1
    · intro pair member
      obtain ⟨entry, _, rfl⟩ := List.mem_map.1 member
      exact legible_textTree entry.2
  have each : ∀ member ∈ identity.members, Legible member.2 := by
    intro member listed
    simp only [members, List.mem_cons, List.mem_append] at listed
    rcases listed with rfl | listed | listed
    · exact legible_textTree identity.name
    · split at listed
      · cases listed
      · cases List.mem_singleton.1 listed
        exact roles
    · split at listed
      · cases listed
      · cases List.mem_singleton.1 listed
        exact attributes
  rw [toTree_eq_object]
  apply Legible.object
  · intro pair member
    obtain ⟨named, _, rfl⟩ := List.mem_map.1 member
    exact wholeSpelling_spellString named.1
  · intro pair member
    obtain ⟨named, listed, rfl⟩ := List.mem_map.1 member
    exact each named listed

/-- The text of an identity is read as the identity. -/
theorem read_toTree_write (identity : Identity) :
    (Json.read identity.toTree.write).bind ofTree? = some identity := by
  rw [read_write identity.legible_toTree, Option.bind_some, ofTree?_toTree]

end NodeGate.Identity
