/-!
# Maps from names

A finite map from names to values, kept as a list of entries in strictly rising order of name.
The order of names is the order of their code points, which is also the order of their UTF-8
bytes. Since the order is part of the type, two maps with the same entries are equal, and
`entries` lists each name once. `get?_insert` and `get?_erase` say what each change does to
every name.
-/

namespace NodeGate

/-- A finite map from names, in rising order of name. -/
structure NameMap (Value : Type) where
  entries : List (String × Value)
  ordered : entries.Pairwise fun left right => left.1 < right.1
  deriving Repr

namespace NameMap

variable {Value : Type}

/-- Maps are equal when they have the same entries. -/
@[ext] theorem ext {left right : NameMap Value} (same : left.entries = right.entries) :
    left = right := by
  cases left
  cases right
  cases same
  rfl

instance [DecidableEq Value] : DecidableEq (NameMap Value) := fun left right =>
  decidable_of_iff (left.entries = right.entries) ⟨ext, fun same => same ▸ rfl⟩

/-- The map without entries. -/
def empty : NameMap Value := ⟨[], List.Pairwise.nil⟩

instance : Inhabited (NameMap Value) := ⟨empty⟩

/-- The value that a list of entries holds for a name. -/
def lookup (name : String) : List (String × Value) → Option Value
  | [] => none
  | (other, value) :: rest => if name = other then some value else lookup name rest

/-- The entries with one name set, at its place in the order. -/
def insertEntry (name : String) (value : Value) : List (String × Value) → List (String × Value)
  | [] => [(name, value)]
  | (other, previous) :: rest =>
    if name = other then (name, value) :: rest
    else if name < other then (name, value) :: (other, previous) :: rest
    else (other, previous) :: insertEntry name value rest

/-- The entries without those of one name. -/
def eraseEntry (name : String) (entries : List (String × Value)) : List (String × Value) :=
  entries.filter fun entry => entry.1 ≠ name

/-- Names that are neither equal nor in order are in the opposite order. -/
theorem lt_of_ne_of_not_lt {left right : String} (different : left ≠ right)
    (notBefore : ¬ left < right) : right < left :=
  ((Std.lt_trichotomy left right).resolve_left notBefore).resolve_left different

/-- Setting a name brings in no entry but its own. -/
theorem mem_insertEntry {name : String} {value : Value} {entries : List (String × Value)}
    {entry : String × Value} (member : entry ∈ insertEntry name value entries) :
    entry = (name, value) ∨ entry ∈ entries := by
  fun_induction insertEntry name value entries with
  | case1 => simpa using member
  | case2 previous rest =>
    rcases List.mem_cons.1 member with head | tail
    · exact .inl head
    · exact .inr (List.mem_cons_of_mem _ tail)
  | case3 => simpa using member
  | case4 other previous rest _ _ inductionHypothesis =>
    rcases List.mem_cons.1 member with head | tail
    · exact .inr (head ▸ List.mem_cons_self)
    · exact (inductionHypothesis tail).imp_right (List.mem_cons_of_mem _)

/-- Setting a name keeps the order. -/
theorem ordered_insertEntry {name : String} {value : Value} {entries : List (String × Value)}
    (ordered : entries.Pairwise fun left right => left.1 < right.1) :
    (insertEntry name value entries).Pairwise fun left right => left.1 < right.1 := by
  fun_induction insertEntry name value entries with
  | case1 => simp
  | case2 => simpa using ordered
  | case3 other previous rest different before =>
    refine List.Pairwise.cons (fun entry member => ?_) ordered
    rcases List.mem_cons.1 member with rfl | tail
    · exact before
    · exact String.lt_trans before ((List.pairwise_cons.1 ordered).1 entry tail)
  | case4 other previous rest different notBefore inductionHypothesis =>
    obtain ⟨first, others⟩ := List.pairwise_cons.1 ordered
    refine List.Pairwise.cons (fun entry member => ?_) (inductionHypothesis others)
    rcases mem_insertEntry member with rfl | tail
    · exact lt_of_ne_of_not_lt different notBefore
    · exact first entry tail

/-- What a list of entries holds after one name is set. -/
theorem lookup_insertEntry (name other : String) (value : Value)
    (entries : List (String × Value)) :
    lookup other (insertEntry name value entries) =
      if other = name then some value else lookup other entries := by
  fun_induction insertEntry name value entries with
  | case1 => simp [lookup]
  | case2 => by_cases same : other = name <;> simp [lookup, same]
  | case3 => simp [lookup]
  | case4 key previous rest different _ inductionHypothesis =>
    by_cases same : other = key
    · have apart : key ≠ name := fun equal => different equal.symm
      simp [lookup, same, apart]
    · simp [lookup, same, inductionHypothesis]

/-- What a list of entries holds after one name is removed. -/
theorem lookup_eraseEntry (name other : String) (entries : List (String × Value)) :
    lookup other (eraseEntry name entries) =
      if other = name then none else lookup other entries := by
  induction entries with
  | nil => simp [eraseEntry, lookup]
  | cons entry rest inductionHypothesis =>
    obtain ⟨key, value⟩ := entry
    simp only [eraseEntry] at inductionHypothesis
    by_cases same : key = name
    · subst same
      simp only [eraseEntry, ne_eq, decide_not, List.filter_cons, decide_true, Bool.not_true,
        Bool.false_eq_true, if_false] at inductionHypothesis ⊢
      rw [inductionHypothesis]
      by_cases equal : other = key <;> simp [lookup, equal]
    · by_cases equal : other = key
      · subst equal
        simp [eraseEntry, lookup, same]
      · simpa [eraseEntry, lookup, same, equal] using inductionHypothesis

/-- The value of a name. -/
def get? (map : NameMap Value) (name : String) : Option Value :=
  lookup name map.entries

/-- The map with one name set; an earlier value of the name is given up. -/
def insert (map : NameMap Value) (name : String) (value : Value) : NameMap Value :=
  ⟨insertEntry name value map.entries, ordered_insertEntry map.ordered⟩

/-- The map without one name. -/
def erase (map : NameMap Value) (name : String) : NameMap Value :=
  ⟨eraseEntry name map.entries, map.ordered.filter _⟩

/-- The map that setting the pairs from left to right leaves: the last value of a name wins. -/
def insertAll (map : NameMap Value) (pairs : List (String × Value)) : NameMap Value :=
  pairs.foldl (fun built pair => built.insert pair.1 pair.2) map

/-- The map of a list of pairs. -/
def ofList (pairs : List (String × Value)) : NameMap Value :=
  empty.insertAll pairs

/-- The names in rising order. -/
def names (map : NameMap Value) : List String :=
  map.entries.map (·.1)

/-- How many names the map holds. -/
def size (map : NameMap Value) : Nat :=
  map.entries.length

/-- Whether the map holds no name. -/
def isEmpty (map : NameMap Value) : Bool :=
  map.entries.isEmpty

/-- The empty map holds nothing. -/
@[simp] theorem get?_empty (name : String) : (empty : NameMap Value).get? name = none := rfl

/-- Setting a name changes that name alone. -/
theorem get?_insert (map : NameMap Value) (name other : String) (value : Value) :
    (map.insert name value).get? other =
      if other = name then some value else map.get? other :=
  lookup_insertEntry name other value map.entries

/-- Removing a name changes that name alone. -/
theorem get?_erase (map : NameMap Value) (name other : String) :
    (map.erase name).get? other = if other = name then none else map.get? other :=
  lookup_eraseEntry name other map.entries

/-- The names are in strictly rising order, so each is listed once. -/
theorem names_ordered (map : NameMap Value) : map.names.Pairwise (· < ·) :=
  List.pairwise_map.2 map.ordered

end NameMap

end NodeGate
