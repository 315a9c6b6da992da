import Mathlib.Data.List.Induction
import Mathlib.Data.Set.Card
import NodeGate.Proofs.Headers

/-!
# Headers follow their history

What is stored under a name is the last value that was written there since the name was last
removed (`stored_run`). An empty value is seen in two ways: the list of headers, their number,
removal and the search for a private name take it for what it is, and a reader for none.
`run_keepsBothViews` says so of headers after any changes, and what a further change does.
-/

namespace NodeGate.Headers

open NodeGate.Text

/-- The headers after changes, in order. -/
def run (headers : Headers) (changes : List Change) : Headers :=
  changes.foldl (fun headers change => (headers.perform change).1) headers

/-- The values written under a name since it was last removed, the last one first, after one more
change. An insertion that waits for the name to be absent writes where the last value is missing
or empty. -/
def Change.addTo (name : String) (written : List String) : Change → List String
  | .insert key value => if key = name then value :: written else written
  | .insertIfAbsent key value =>
    if key = name ∧ ∀ last ∈ written.head?, last = "" then value :: written else written
  | .remove key => if key = name then [] else written

/-- The name that a change is about. -/
def Change.name : Change → String
  | .insert name _ => name
  | .insertIfAbsent name _ => name
  | .remove name => name

/-- The last value that a history wrote under a name since it last removed the name, if any. -/
def last? (name : String) (history : List Change) : Option String :=
  (history.foldl (Change.addTo name) []).head?

/-- The history of headers that begin with pairs, set from left to right. -/
def beganWith (pairs : List (String × String)) (changes : List Change) : List Change :=
  pairs.map (fun pair => .insert pair.1 pair.2) ++ changes

section Stored

variable {headers : Headers} {change : Change} {name value : String}

/-- A reader sees what is stored and not empty. -/
theorem get?_eq_some_iff_stored :
    headers.get? name = some value ↔ headers.fields.get? name = some value ∧ value ≠ "" := by
  simp [get?, Option.filter_eq_some_iff]

/-- A reader sees nothing where nothing is stored, or nothing but an empty value. -/
theorem get?_eq_none_iff_stored :
    headers.get? name = none ↔ ∀ stored ∈ headers.fields.get? name, stored = "" := by
  simp [get?, Option.filter_eq_none_iff]

/-- Whether a reader sees a value. -/
theorem contains_iff : headers.contains name = true ↔ ∃ value, headers.get? name = some value :=
  Option.isSome_iff_exists

/-- An insertion that waits for a name to be absent is an insertion where a reader sees nothing,
and nothing elsewhere. -/
theorem perform_insertIfAbsent (headers : Headers) (name value : String) :
    headers.perform (.insertIfAbsent name value) =
      if headers.get? name = none then (headers.insert name value, .written true)
      else (headers, .written false) := by
  rw [perform, insertIfAbsent, contains]
  cases headers.get? name <;> simp

/-- What a change leaves stored under a name is the last value that was written there. -/
theorem stored_perform {written : List String}
    (stored : headers.fields.get? name = written.head?) :
    (headers.perform change).1.fields.get? name = (change.addTo name written).head? := by
  cases change with
  | insert key value =>
      rw [perform, insert, NameMap.get?_insert, Change.addTo]
      by_cases same : name = key
      · simp [same]
      · simp [same, Ne.symm same, stored]
  | insertIfAbsent key value =>
      rw [perform_insertIfAbsent, Change.addTo]
      by_cases same : name = key
      · subst same
        simp only [true_and, ← stored, ← get?_eq_none_iff_stored]
        split
        · simp [insert, NameMap.get?_insert]
        · exact stored
      · split <;> simp [insert, NameMap.get?_insert, same, Ne.symm same, stored]
  | remove key =>
      rw [perform, erase, NameMap.get?_erase, Change.addTo]
      by_cases same : name = key
      · simp [same]
      · simp [same, Ne.symm same, stored]

/-- A change leaves what is stored under every name but its own. -/
theorem stored_perform_of_ne (other : change.name ≠ name) :
    (headers.perform change).1.fields.get? name = headers.fields.get? name := by
  cases change with
  | insert key value => exact (NameMap.get?_insert _ _ _ _).trans (if_neg (Ne.symm other))
  | insertIfAbsent key value =>
      rw [perform_insertIfAbsent]
      split
      · exact (NameMap.get?_insert _ _ _ _).trans (if_neg (Ne.symm other))
      · rfl
  | remove key => exact (NameMap.get?_erase _ _ _).trans (if_neg (Ne.symm other))

end Stored

/-- The headers of pairs are those that setting the pairs one by one leaves. -/
theorem run_ofList (pairs : List (String × String)) (changes : List Change) :
    (ofList pairs).run changes = empty.run (beganWith pairs changes) := by
  have set (headers : Headers) :
      headers.insertAll pairs = headers.run (pairs.map fun pair => .insert pair.1 pair.2) := by
    induction pairs generalizing headers with
    | nil => rfl
    | cons pair rest inductionHypothesis => exact inductionHypothesis (headers.insert pair.1 pair.2)
  rw [ofList, set, beganWith]
  exact List.foldl_append.symm

/-- What is stored under a name is the last value that was written there. -/
theorem stored_run (history : List Change) (name : String) :
    (empty.run history).fields.get? name = last? name history := by
  induction history using List.reverseRecOn with
  | nil => rfl
  | append_singleton history change inductionHypothesis =>
      rw [run, last?, List.foldl_append, List.foldl_append]
      exact stored_perform inductionHypothesis

/-- A private name under which a history left a value. -/
def LeavesPrivate (history : List Change) (name : String) : Prop :=
  "_sg_".toList <+: name.toList ∧ ∃ value, last? name history = some value

/-- Headers show what a history left, an empty value as absent to readers and as it is to all
others. -/
structure BothViews (headers : Headers) (history : List Change) : Prop where
  /-- The names are listed by rising bytes, so each is listed once. -/
  rising : headers.toList.Pairwise fun left right =>
    Utf8.ofString left.1 < Utf8.ofString right.1
  /-- What is listed under a name is the last value that was written there. -/
  listed : ∀ name value, (name, value) ∈ headers.toList ↔ last? name history = some value
  /-- There are as many headers as names with a value, empty values included. -/
  size : Set.encard {name | ∃ value, last? name history = some value} = headers.size
  /-- A reader sees the last value unless it is empty. -/
  get? : ∀ name value,
    headers.get? name = some value ↔ last? name history = some value ∧ value ≠ ""
  /-- To ask for a name is to try to read its value. -/
  contains : ∀ name, headers.contains name = true ↔
    ∃ value, last? name history = some value ∧ value ≠ ""
  /-- The search finds a private name whose bytes come before those of all others, whatever the
  values are. -/
  firstPrivate : ∀ name, headers.firstPrivate? = some name ↔ LeavesPrivate history name ∧
    ∀ other, LeavesPrivate history other → other ≠ name →
      Utf8.ofString name < Utf8.ofString other
  /-- It finds none where there is none. -/
  noPrivate : headers.firstPrivate? = none ↔ ∀ name, ¬ LeavesPrivate history name
  /-- Where a reader sees nothing, an insertion that waits for that writes. -/
  writes : ∀ name value, headers.get? name = none →
    headers.perform (.insertIfAbsent name value) = (headers.insert name value, .written true)
  /-- Elsewhere it changes nothing. -/
  keeps : ∀ name value, headers.get? name ≠ none →
    headers.perform (.insertIfAbsent name value) = (headers, .written false)
  /-- A removal gives back the last value, empty or not. -/
  remove : ∀ name, (headers.perform (.remove name)).2 = .removed (last? name history)
  /-- A change is about one name and leaves what is stored under every other. -/
  apart : ∀ change other, change.name ≠ other →
    (headers.perform change).1.fields.get? other = headers.fields.get? other

/-- Headers that begin with any pairs and go through any changes show what their history left. -/
theorem run_keepsBothViews (pairs : List (String × String)) (changes : List Change) :
    BothViews ((ofList pairs).run changes) (beganWith pairs changes) := by
  rw [run_ofList]
  generalize beganWith pairs changes = history
  have stored := stored_run history
  have hasPrivate (name : String) :
      (empty.run history).HasPrivate name ↔ LeavesPrivate history name := by
    rw [LeavesPrivate, ← stored]
    exact ⟨fun ⟨mark, held⟩ => ⟨mark, held⟩, fun ⟨mark, held⟩ => ⟨mark, held⟩⟩
  constructor
  case rising =>
    exact (empty.run history).fields.ordered.imp fun before => Utf8.ofString_lt_ofString before
  case listed =>
    intro name value
    rw [toList, NameMap.mem_entries_iff, stored]
  case size =>
    simp only [← stored]
    exact NameMap.encard_get? _
  case get? =>
    intro name value
    rw [get?_eq_some_iff_stored, stored]
  case contains =>
    intro name
    simp only [contains_iff, get?_eq_some_iff_stored, stored]
  case firstPrivate =>
    intro name
    rw [firstPrivate?_eq_some_iff]
    constructor
    · rintro ⟨has, least⟩
      exact ⟨(hasPrivate name).1 has, fun other left => least other ((hasPrivate other).2 left)⟩
    · rintro ⟨left, least⟩
      exact ⟨(hasPrivate name).2 left, fun other has => least other ((hasPrivate other).1 has)⟩
  case noPrivate =>
    simp only [firstPrivate?_eq_none_iff_forall, hasPrivate]
  case writes =>
    intro name value absent
    rw [perform_insertIfAbsent, if_pos absent]
  case keeps =>
    intro name value present
    rw [perform_insertIfAbsent, if_neg present]
  case remove =>
    intro name
    rw [perform, stored]
  case apart =>
    intro change other different
    exact stored_perform_of_ne different

end NodeGate.Headers
