import Mathlib.Data.List.Forall2
import NodeGate.Proofs.Identity

/-!
# Objects that describe an identity

`Describes` says outright which members of an object describe an identity: its name, its roles in
any order and as often as they like, its attributes with the last value of each key, each under
its key once, and beside them any members under other keys. Such an object is read as the
identity (`ofTree?_of_describes`). Without a name, or with one of the three keys standing twice, it
is read as none.
-/

namespace NodeGate.Identity

open NodeGate.Json

/-- A tree is a string whose spelling stands for a text. -/
inductive DenotesText : Tree → String → Prop where
  | string {spelling : List UInt8} {text : String} (spelled : Spelled spelling text.toList) :
      DenotesText (.string spelling) text

/-- A tree is an array of the roles of a set, in any order and with repetitions. -/
inductive DenotesRoles : Tree → NameSet → Prop where
  | array {items : List Tree} {names : List String} {roles : NameSet}
      (each : List.Forall₂ DenotesText items names) (same : ∀ role, role ∈ names ↔ role ∈ roles) :
      DenotesRoles (.array items) roles

/-- The last of pairs under a key has a value. -/
inductive LastValue (pairs : List (String × String)) (key value : String) : Prop where
  | split {before after : List (String × String)} (whole : pairs = before ++ (key, value) :: after)
      (last : ∀ pair ∈ after, pair.1 ≠ key)

/-- A member of an object of texts is a pair of them. -/
structure DenotesPair (member : List UInt8 × Tree) (pair : String × String) : Prop where
  key : Spelled member.1 pair.1.toList
  value : DenotesText member.2 pair.2

/-- A tree is an object whose last value of each key is that of a map. -/
inductive DenotesAttributes : Tree → NameMap String → Prop where
  | object {members : List (List UInt8 × Tree)} {pairs : List (String × String)}
      {attributes : NameMap String} (each : List.Forall₂ DenotesPair members pairs)
      (same : ∀ key value, LastValue pairs key value ↔ attributes.get? key = some value) :
      DenotesAttributes (.object members) attributes

/-- A member has a tree under the text that its key stands for. -/
structure Keyed (member : List UInt8 × Tree) (entry : String × Tree) : Prop where
  key : Spelled member.1 entry.1.toList
  value : member.2 = entry.2

/-- Entries hold what is meant under a key once, or not at all where nothing may be left out. -/
inductive Holds (entries : List (String × Tree)) (key : String) (means : Tree → Prop)
    (nothing : Prop) : Prop where
  | once {before after : List (String × Tree)} {tree : Tree}
      (whole : entries = before ++ (key, tree) :: after)
      (only : ∀ entry ∈ before ++ after, entry.1 ≠ key) (meaning : means tree)
  | leftOut (absent : ∀ entry ∈ entries, entry.1 ≠ key) (empty : nothing)

/-- The entries of an object describe an identity. Roles and attributes may be left out when there
are none, and entries under other keys say nothing. -/
structure Describes (entries : List (String × Tree)) (identity : Identity) : Prop where
  name : Holds entries "name" (DenotesText · identity.name) False
  roles : Holds entries "backend_roles" (DenotesRoles · identity.backendRoles)
    (identity.backendRoles = NameSet.empty)
  attributes : Holds entries "attributes" (DenotesAttributes · identity.attributes)
    (identity.attributes = NameMap.empty)

/-- The keys that an object may hold once. -/
def knownKeys : List String :=
  ["name", "backend_roles", "attributes"]

/-- A list whose elements are each read as another's is read as the other. -/
theorem mapM_eq_some_of_forall₂ {First Second : Type} {read : First → Option Second}
    {means : First → Second → Prop} (reads : ∀ first second, means first second →
      read first = some second) {firsts : List First} {seconds : List Second}
    (each : List.Forall₂ means firsts seconds) : firsts.mapM read = some seconds := by
  induction each with
  | nil => rfl
  | cons first _ inductionHypothesis => simp [reads _ _ first, inductionHypothesis]

/-- A spelling that stands for a text is read as the string. -/
theorem unspellString_of_spelled {spelling : List UInt8} {text : String}
    (spelled : Spelled spelling text.toList) : unspellString spelling = some text := by
  rw [unspellString, spelled.unspell, Option.map_some, String.ofList_toList]

/-- A text is read as what it says. -/
theorem readText_of_denotes (tree : Tree) (text : String) (denotes : DenotesText tree text) :
    readText tree = some text := by
  cases denotes with
  | string spelled => exact unspellString_of_spelled spelled

/-- Roles are read as the set that they are of. -/
theorem readRoles_of_denotes {tree : Tree} {roles : NameSet} (denotes : DenotesRoles tree roles) :
    readRoles tree = some roles := by
  cases denotes with
  | array each same =>
      rename_i names
      have set : NameSet.ofList names = roles :=
        NameSet.ext_mem fun role => NameSet.mem_ofList.trans (same role)
      rw [readRoles, mapM_eq_some_of_forall₂ readText_of_denotes each, Option.map_some, set]

/-- The last value under a key is the one that is found first from behind. -/
theorem lookup_reverse_eq_some_iff {pairs : List (String × String)} {key value : String} :
    NameMap.lookup key pairs.reverse = some value ↔ LastValue pairs key value := by
  rw [NameMap.lookup_eq_some_iff_split]
  constructor
  · rintro ⟨after, before, whole, last⟩
    have reversed := congrArg List.reverse whole
    simp only [List.reverse_reverse, List.reverse_append, List.reverse_cons, List.append_assoc,
      List.singleton_append] at reversed
    exact ⟨reversed, by simpa using last⟩
  · rintro ⟨whole, last⟩
    rename_i before after
    refine ⟨after.reverse, before.reverse, ?_, by simpa using last⟩
    rw [whole]
    simp

/-- Attributes are read as the map of the last values. -/
theorem readAttributes_of_denotes {tree : Tree} {attributes : NameMap String}
    (denotes : DenotesAttributes tree attributes) : readAttributes tree = some attributes := by
  cases denotes with
  | object each same =>
      rename_i members pairs
      have map : NameMap.ofList pairs = attributes := by
        apply NameMap.ext_get?
        intro key
        apply Option.ext
        intro value
        rw [NameMap.get?_ofList, lookup_reverse_eq_some_iff, same]
      have read : ∀ member pair, DenotesPair member pair →
          (do return (← unspellString member.1, ← readText member.2)) = some pair := by
        intro member pair denotesPair
        simp [unspellString_of_spelled denotesPair.key, readText_of_denotes _ _ denotesPair.value]
      rw [readAttributes, mapM_eq_some_of_forall₂ read each]
      exact congrArg some map

/-- A member is read under the text that its key stands for. -/
theorem readKey_of_keyed (member : List UInt8 × Tree) (entry : String × Tree)
    (keyed : Keyed member entry) : readKey member = some entry := by
  rw [readKey, unspellString_of_spelled keyed.key, keyed.value]
  rfl

variable {entries : List (String × Tree)} {key : String}

/-- What is found under a key that stands nowhere. -/
theorem soleMember_of_absent (absent : ∀ entry ∈ entries, entry.1 ≠ key) :
    soleMember key entries = some none := by
  have none : entries.filter (·.1 = key) = [] := by
    rw [List.filter_eq_nil_iff]
    simpa using absent
  rw [soleMember, none]

/-- What is found under a key that stands once. -/
theorem soleMember_of_once {before after : List (String × Tree)} {tree : Tree}
    (whole : entries = before ++ (key, tree) :: after)
    (only : ∀ entry ∈ before ++ after, entry.1 ≠ key) :
    soleMember key entries = some (some tree) := by
  have absent (part : List (String × Tree)) (within : ∀ entry ∈ part, entry ∈ before ++ after) :
      part.filter (·.1 = key) = [] := by
    rw [List.filter_eq_nil_iff]
    intro entry member
    simpa using only entry (within entry member)
  have sole : entries.filter (·.1 = key) = [(key, tree)] := by
    rw [whole, List.filter_append, List.filter_cons_of_pos (by simp),
      absent before fun _ => List.mem_append_left after,
      absent after fun _ => List.mem_append_right before, List.nil_append]
  rw [soleMember, sole]

/-- Nothing is found under a key that stands twice. -/
theorem soleMember_of_repeated (repeated : 1 < (entries.map Prod.fst).count key) :
    soleMember key entries = none := by
  have several : 1 < (entries.filter (·.1 = key)).length := by
    rw [List.count_eq_length_filter, List.filter_map, List.length_map] at repeated
    simpa [Function.comp_def, Bool.beq_eq_decide_eq] using repeated
  unfold soleMember
  split
  · rename_i found
    rw [found] at several
    cases several
  · rename_i found
    rw [found, List.length_singleton] at several
    exact absurd several (Nat.lt_irrefl 1)
  · rfl

/-- What entries hold under a key is what is read there. -/
theorem Holds.memberSays {Content : Type} {read : Tree → Option Content}
    {content otherwise : Content} {means : Tree → Prop}
    (holds : Holds entries key means (content = otherwise))
    (reads : ∀ tree, means tree → read tree = some content) :
    MemberSays entries key read otherwise content := by
  cases holds with
  | once whole only meaning => exact .present (soleMember_of_once whole only) (reads _ meaning)
  | leftOut absent empty => exact empty ▸ .absent (soleMember_of_absent absent)

variable {members : List (List UInt8 × Tree)} {identity : Identity}

/-- The members of an object are read under the texts that their keys stand for. -/
theorem mapM_readKey_of_keyed (keyed : List.Forall₂ Keyed members entries) :
    members.mapM readKey = some entries :=
  mapM_eq_some_of_forall₂ readKey_of_keyed keyed

/-- An object that describes an identity is read as the identity. -/
theorem ofTree?_of_describes (keyed : List.Forall₂ Keyed members entries)
    (describes : Describes entries identity) : ofTree? (.object members) = some identity := by
  have roles := describes.roles.memberSays fun _ => readRoles_of_denotes
  have attributes := describes.attributes.memberSays fun _ => readAttributes_of_denotes
  cases describes.name with
  | once whole only meaning =>
      exact ofTree?_object (mapM_readKey_of_keyed keyed) (soleMember_of_once whole only)
        (readText_of_denotes _ _ meaning) roles attributes
  | leftOut absent empty => exact empty.elim

/-- What is read as an identity has a name and none of the known keys twice. -/
theorem soleMember_of_ofTree? (keyed : List.Forall₂ Keyed members entries)
    (read : ofTree? (.object members) = some identity) :
    (∃ tree, soleMember "name" entries = some (some tree)) ∧
      ∀ key ∈ knownKeys, soleMember key entries ≠ none := by
  rw [ofTree?_eq_bind, mapM_readKey_of_keyed keyed] at read
  simp only [Option.bind_some, Option.bind_eq_bind, Option.bind_eq_some_iff] at read
  obtain ⟨found, named, tree, present, _, _, roles, rolesFound, later⟩ := read
  have attributesFound : soleMember "attributes" entries ≠ none := by
    intro none
    rw [none] at later
    cases roles <;> simp at later
  refine ⟨⟨tree, by rw [named, present]⟩, ?_⟩
  simp [knownKeys, named, rolesFound, attributesFound]

/-- An object without a name is read as no identity. -/
theorem ofTree?_of_nameless (keyed : List.Forall₂ Keyed members entries)
    (nameless : ∀ entry ∈ entries, entry.1 ≠ "name") : ofTree? (.object members) = none := by
  rw [Option.eq_none_iff_forall_ne_some]
  intro identity read
  obtain ⟨⟨tree, named⟩, _⟩ := soleMember_of_ofTree? keyed read
  rw [soleMember_of_absent nameless, Option.some.injEq] at named
  cases named

/-- An object with one of the known keys twice is read as no identity. -/
theorem ofTree?_of_repeated (keyed : List.Forall₂ Keyed members entries) (known : key ∈ knownKeys)
    (repeated : 1 < (entries.map Prod.fst).count key) : ofTree? (.object members) = none := by
  rw [Option.eq_none_iff_forall_ne_some]
  intro identity read
  exact (soleMember_of_ofTree? keyed read).2 key known (soleMember_of_repeated repeated)

end NodeGate.Identity
