import NodeGate.NameMap

/-!
# Sets of names

A finite set of names, kept as a list in strictly rising order. As with maps, the order is part
of the type, so sets with the same members are equal: `NameSet.ext_mem`.
-/

namespace NodeGate

/-- A finite set of names, in rising order. -/
structure NameSet where
  toList : List String
  ordered : toList.Pairwise (· < ·)
  deriving Repr

namespace NameSet

/-- Sets are equal when they list the same names. -/
theorem ext {left right : NameSet} (same : left.toList = right.toList) : left = right := by
  cases left
  cases right
  cases same
  rfl

instance : DecidableEq NameSet := fun left right =>
  decidable_of_iff (left.toList = right.toList) ⟨ext, fun same => same ▸ rfl⟩

instance : Membership String NameSet where
  mem set name := name ∈ set.toList

instance (name : String) (set : NameSet) : Decidable (name ∈ set) :=
  inferInstanceAs (Decidable (name ∈ set.toList))

/-- The set without members. -/
def empty : NameSet := ⟨[], List.Pairwise.nil⟩

instance : Inhabited NameSet := ⟨empty⟩

/-- The list with one name added at its place in the order, unless it is there. -/
def insertName (name : String) : List String → List String
  | [] => [name]
  | other :: rest =>
    if name = other then other :: rest
    else if name < other then name :: other :: rest
    else other :: insertName name rest

/-- Adding a name brings in that name alone. -/
theorem mem_insertName {name other : String} {names : List String} :
    other ∈ insertName name names ↔ other = name ∨ other ∈ names := by
  fun_induction insertName name names with
  | case1 => simp
  | case2 rest => simp
  | case3 => simp
  | case4 key rest _ _ inductionHypothesis =>
    simp only [List.mem_cons, inductionHypothesis]
    exact or_left_comm

/-- Adding a name keeps the order. -/
theorem ordered_insertName {name : String} {names : List String}
    (ordered : names.Pairwise (· < ·)) : (insertName name names).Pairwise (· < ·) := by
  fun_induction insertName name names with
  | case1 => simp
  | case2 => exact ordered
  | case3 other rest different before =>
    refine List.Pairwise.cons (fun key member => ?_) ordered
    rcases List.mem_cons.1 member with rfl | tail
    · exact before
    · exact String.lt_trans before ((List.pairwise_cons.1 ordered).1 key tail)
  | case4 other rest different notBefore inductionHypothesis =>
    obtain ⟨first, others⟩ := List.pairwise_cons.1 ordered
    refine List.Pairwise.cons (fun key member => ?_) (inductionHypothesis others)
    rcases mem_insertName.1 member with rfl | tail
    · exact NameMap.lt_of_ne_of_not_lt different notBefore
    · exact first key tail

/-- The set with one name added. -/
def insert (set : NameSet) (name : String) : NameSet :=
  ⟨insertName name set.toList, ordered_insertName set.ordered⟩

/-- The set with every name of a list added. -/
def insertAll (set : NameSet) (names : List String) : NameSet :=
  names.foldl insert set

/-- The set of the names of a list. -/
def ofList (names : List String) : NameSet :=
  empty.insertAll names

/-- Whether the set has no member. -/
def isEmpty (set : NameSet) : Bool :=
  set.toList.isEmpty

/-- Adding a name to a set. -/
@[simp] theorem mem_insert {set : NameSet} {name other : String} :
    other ∈ set.insert name ↔ other = name ∨ other ∈ set :=
  mem_insertName

/-- Adding the names of a list to a set. -/
@[simp] theorem mem_insertAll {set : NameSet} {names : List String} {other : String} :
    other ∈ set.insertAll names ↔ other ∈ names ∨ other ∈ set := by
  induction names generalizing set with
  | nil => simp [insertAll]
  | cons name rest inductionHypothesis =>
    have step := @inductionHypothesis (set.insert name)
    simp only [insertAll, List.foldl_cons] at step ⊢
    rw [step, mem_insert, List.mem_cons]
    exact or_left_comm.trans or_assoc.symm

/-- The set of a list has the members of the list. -/
@[simp] theorem mem_ofList {names : List String} {other : String} :
    other ∈ ofList names ↔ other ∈ names := by
  simp only [ofList, mem_insertAll, or_iff_left_iff_imp]
  intro member
  exact absurd member List.not_mem_nil

/-- Lists in strictly rising order with the same members are equal. -/
theorem eq_of_ordered_of_mem_iff {left right : List String} (leftOrdered : left.Pairwise (· < ·))
    (rightOrdered : right.Pairwise (· < ·)) (same : ∀ name, name ∈ left ↔ name ∈ right) :
    left = right := by
  induction left generalizing right with
  | nil =>
    cases right with
    | nil => rfl
    | cons name rest => exact absurd ((same name).2 List.mem_cons_self) List.not_mem_nil
  | cons name rest inductionHypothesis =>
    cases right with
    | nil => exact absurd ((same name).1 List.mem_cons_self) List.not_mem_nil
    | cons other more =>
      obtain ⟨leftFirst, leftRest⟩ := List.pairwise_cons.1 leftOrdered
      obtain ⟨rightFirst, rightRest⟩ := List.pairwise_cons.1 rightOrdered
      have heads : name = other := by
        rcases List.mem_cons.1 ((same name).1 List.mem_cons_self) with equal | later
        · exact equal
        · rcases List.mem_cons.1 ((same other).2 List.mem_cons_self) with equal | earlier
          · exact equal.symm
          · exact absurd (rightFirst name later) (String.lt_asymm (leftFirst other earlier))
      subst heads
      refine congrArg _ (inductionHypothesis leftRest rightRest fun key => ?_)
      constructor
      · intro member
        rcases List.mem_cons.1 ((same key).1 (List.mem_cons_of_mem _ member)) with equal | tail
        · exact absurd (leftFirst key member) (equal ▸ String.lt_irrefl _)
        · exact tail
      · intro member
        rcases List.mem_cons.1 ((same key).2 (List.mem_cons_of_mem _ member)) with equal | tail
        · exact absurd (rightFirst key member) (equal ▸ String.lt_irrefl _)
        · exact tail

/-- Sets with the same members are equal. -/
theorem ext_mem {left right : NameSet} (same : ∀ name, name ∈ left ↔ name ∈ right) :
    left = right :=
  ext (eq_of_ordered_of_mem_iff left.ordered right.ordered same)

end NameSet

end NodeGate
