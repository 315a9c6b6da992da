import Mathlib.Data.Set.Card
import NodeGate.NameMap

/-!
# The entries and the names of a map

A map seen through `get?`, through its entries and through its names are three views of one
thing: `mem_entries_iff` and `mem_names_iff` carry one into another. So maps with the same
look-ups are equal (`ext_get?`), and a map is rebuilt from its own entries (`ofList_entries`).
-/

namespace NodeGate.NameMap

variable {Value : Type}

/-- Nothing is looked up where no entry has the name. -/
theorem lookup_eq_none {name : String} {entries : List (String × Value)}
    (absent : ∀ entry ∈ entries, name ≠ entry.1) : lookup name entries = none := by
  induction entries with
  | nil => rfl
  | cons entry rest inductionHypothesis =>
      have different := absent entry List.mem_cons_self
      have others := inductionHypothesis fun other member =>
        absent other (List.mem_cons_of_mem _ member)
      simp [lookup, different, others]

/-- In entries that list no name twice, what is looked up is what is listed. -/
theorem lookup_eq_some_iff_of_distinct {entries : List (String × Value)}
    (distinct : entries.Pairwise fun left right => left.1 ≠ right.1) {name : String}
    {value : Value} : lookup name entries = some value ↔ (name, value) ∈ entries := by
  induction entries with
  | nil => simp [lookup]
  | cons entry rest inductionHypothesis =>
      obtain ⟨first, others⟩ := List.pairwise_cons.1 distinct
      obtain ⟨key, held⟩ := entry
      by_cases same : name = key
      · subst same
        have apart : (name, value) ∉ rest := fun member => first _ member rfl
        simp only [lookup, if_true, Option.some.injEq, List.mem_cons, Prod.mk.injEq, true_and,
          apart, or_false]
        exact eq_comm
      · simp [lookup, same, inductionHypothesis others]

/-- Entries in strictly rising order list no name twice. -/
theorem distinct_of_ordered {entries : List (String × Value)}
    (ordered : entries.Pairwise fun left right => left.1 < right.1) :
    entries.Pairwise fun left right => left.1 ≠ right.1 := by
  apply ordered.imp
  intro left right before same
  exact String.lt_irrefl right.1 (same ▸ before)

/-- What is looked up in entries is under a name that they list. -/
theorem exists_lookup_eq_some_iff {name : String} {entries : List (String × Value)} :
    (∃ value, lookup name entries = some value) ↔ name ∈ entries.map (·.1) := by
  induction entries with
  | nil => simp [lookup]
  | cons entry rest inductionHypothesis =>
      obtain ⟨key, held⟩ := entry
      by_cases same : name = key <;> simp [lookup, same, ← inductionHypothesis]

/-- What is looked up in entries and then in others. -/
theorem lookup_append (name : String) (front back : List (String × Value)) :
    lookup name (front ++ back) = (lookup name front <|> lookup name back) := by
  induction front with
  | nil => rfl
  | cons entry rest inductionHypothesis =>
      obtain ⟨key, held⟩ := entry
      by_cases same : name = key
      · simp [lookup, same]
      · simpa [lookup, same] using inductionHypothesis

/-- The value that is looked up is the first one under the name. -/
theorem lookup_eq_some_iff_split {entries : List (String × Value)} {name : String}
    {value : Value} :
    lookup name entries = some value ↔
      ∃ before after, entries = before ++ (name, value) :: after ∧
        ∀ entry ∈ before, entry.1 ≠ name := by
  constructor
  · intro found
    induction entries with
    | nil => cases found
    | cons entry rest inductionHypothesis =>
        obtain ⟨key, held⟩ := entry
        by_cases same : name = key
        · subst same
          simp only [lookup, if_true, Option.some.injEq] at found
          exact ⟨[], rest, by rw [found]; rfl, List.forall_mem_nil _⟩
        · simp only [lookup, same, if_false] at found
          obtain ⟨before, after, rfl, others⟩ := inductionHypothesis found
          refine ⟨(key, held) :: before, after, rfl, fun entry member => ?_⟩
          rcases List.mem_cons.1 member with rfl | member
          · exact Ne.symm same
          · exact others entry member
  · rintro ⟨before, after, rfl, others⟩
    have absent : lookup name before = none :=
      lookup_eq_none fun entry member => (others entry member).symm
    simp [lookup_append, absent, lookup]

/-- A map holds a value for a name exactly when it lists the two together. -/
theorem mem_entries_iff {map : NameMap Value} {name : String} {value : Value} :
    (name, value) ∈ map.entries ↔ map.get? name = some value :=
  (lookup_eq_some_iff_of_distinct (distinct_of_ordered map.ordered)).symm

/-- A map lists the names that it holds a value for. -/
theorem mem_names_iff {map : NameMap Value} {name : String} :
    name ∈ map.names ↔ ∃ value, map.get? name = some value := by
  constructor
  · intro member
    obtain ⟨⟨key, value⟩, listed, rfl⟩ := List.mem_map.1 member
    exact ⟨value, mem_entries_iff.1 listed⟩
  · rintro ⟨value, held⟩
    exact List.mem_map.2 ⟨(name, value), mem_entries_iff.2 held, rfl⟩

/-- A map lists no name twice. -/
theorem names_nodup (map : NameMap Value) : map.names.Nodup := by
  apply map.names_ordered.imp
  rintro left right before rfl
  exact String.lt_irrefl left before

/-- A map lists no entry twice. -/
theorem entries_nodup (map : NameMap Value) : map.entries.Nodup := by
  apply map.ordered.imp
  rintro left right before rfl
  exact String.lt_irrefl left.1 before

/-- A map has as many entries as there are names that it holds a value for. -/
theorem encard_get? (map : NameMap Value) :
    Set.encard {name | ∃ value, map.get? name = some value} = map.size := by
  have named : {name | ∃ value, map.get? name = some value} =
      (map.names.toFinset : Set String) := by
    ext name
    simp only [Set.mem_ofPred_eq, List.coe_toFinset, mem_names_iff]
  rw [named, Set.encard_coe_eq_coe_finsetCard, List.toFinset_card_of_nodup map.names_nodup]
  simp [size, names]

/-- Maps with the same look-ups are equal. -/
theorem ext_get? {left right : NameMap Value} (same : ∀ name, left.get? name = right.get? name) :
    left = right := by
  have listed : ∀ entry, entry ∈ left.entries ↔ entry ∈ right.entries := by
    rintro ⟨name, value⟩
    rw [mem_entries_iff, mem_entries_iff, same]
  have reordered := (List.perm_ext_iff_of_nodup left.entries_nodup right.entries_nodup).2 listed
  apply ext
  apply reordered.eq_of_pairwise _ left.ordered right.ordered
  intro first second _ _ before after
  exact absurd after (String.lt_asymm before)

/-- Setting pairs with different names leaves every name with its pair, if it has one. -/
theorem get?_insertAll {pairs : List (String × Value)}
    (distinct : pairs.Pairwise fun left right => left.1 ≠ right.1) (map : NameMap Value)
    (name : String) :
    (map.insertAll pairs).get? name = (lookup name pairs <|> map.get? name) := by
  induction pairs generalizing map with
  | nil => rfl
  | cons pair rest inductionHypothesis =>
      obtain ⟨first, others⟩ := List.pairwise_cons.1 distinct
      obtain ⟨key, value⟩ := pair
      have step := inductionHypothesis others (map.insert key value)
      rw [get?_insert] at step
      change ((map.insert key value).insertAll rest).get? name = _
      rw [step]
      by_cases same : name = key
      · subst same
        have absent : lookup name rest = none := lookup_eq_none first
        simp [lookup, absent]
      · simp [lookup, same]

/-- Setting the entries of a map over another leaves what the first holds, and otherwise what the
other held. -/
theorem get?_insertAll_entries (map other : NameMap Value) (name : String) :
    (map.insertAll other.entries).get? name = (other.get? name <|> map.get? name) :=
  get?_insertAll (distinct_of_ordered other.ordered) map name

/-- Setting pairs leaves every name with the last of its values, if it has one. -/
theorem get?_insertAll_reverse (pairs : List (String × Value)) (map : NameMap Value)
    (name : String) :
    (map.insertAll pairs).get? name = (lookup name pairs.reverse <|> map.get? name) := by
  induction pairs generalizing map with
  | nil => rfl
  | cons pair rest inductionHypothesis =>
      obtain ⟨key, value⟩ := pair
      have step := inductionHypothesis (map.insert key value)
      rw [get?_insert] at step
      change ((map.insert key value).insertAll rest).get? name = _
      rw [step, List.reverse_cons, lookup_append]
      by_cases same : name = key
      · cases lookup name rest.reverse <;> simp [lookup, same]
      · cases lookup name rest.reverse <;> simp [lookup, same]

/-- In a list of pairs the last value of a name wins. -/
theorem get?_ofList (pairs : List (String × Value)) (name : String) :
    (ofList pairs).get? name = lookup name pairs.reverse := by
  rw [ofList, get?_insertAll_reverse, get?_empty]
  cases lookup name pairs.reverse <;> rfl

/-- The map of a list of pairs has the names of the pairs. -/
theorem mem_names_ofList {pairs : List (String × Value)} {name : String} :
    name ∈ (ofList pairs).names ↔ name ∈ pairs.map (·.1) := by
  simp only [mem_names_iff, get?_ofList, exists_lookup_eq_some_iff, List.map_reverse,
    List.mem_reverse]

/-- Where no name is paired twice, the map has the values of the pairs. -/
theorem get?_ofList_eq_some_iff {pairs : List (String × Value)}
    (distinct : pairs.Pairwise fun left right => left.1 ≠ right.1) {name : String}
    {value : Value} : (ofList pairs).get? name = some value ↔ (name, value) ∈ pairs := by
  have reversed : pairs.reverse.Pairwise fun left right => left.1 ≠ right.1 :=
    List.pairwise_reverse.2 (distinct.imp Ne.symm)
  rw [get?_ofList, lookup_eq_some_iff_of_distinct reversed, List.mem_reverse]

/-- Where no name is paired twice, the order of the pairs does not matter. -/
theorem ofList_eq_of_perm {left right : List (String × Value)}
    (distinct : right.Pairwise fun first second => first.1 ≠ second.1) (perm : left.Perm right) :
    ofList left = ofList right := by
  have distinctLeft : left.Pairwise fun first second => first.1 ≠ second.1 :=
    (perm.pairwise_iff Ne.symm).2 distinct
  apply ext_get?
  intro name
  apply Option.ext
  intro value
  rw [get?_ofList_eq_some_iff distinctLeft, get?_ofList_eq_some_iff distinct, perm.mem_iff]

/-- A map is rebuilt from its own entries. -/
theorem ofList_entries (map : NameMap Value) : ofList map.entries = map := by
  apply ext_get?
  intro name
  rw [ofList, get?_insertAll_entries, get?_empty]
  cases map.get? name <;> rfl

end NodeGate.NameMap
