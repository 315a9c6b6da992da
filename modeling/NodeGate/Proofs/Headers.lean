import NodeGate.Headers
import NodeGate.Proofs.NameMap
import NodeGate.Proofs.Text.Utf8Order

/-!
# The least private name

The search for a private name finds the one whose bytes come first, if any is stored, whatever
its value (`firstPrivate?_eq_some_iff`, `firstPrivate?_eq_none_iff_forall`). So what is found is
settled by which private names are stored (`firstPrivate?_congr`).
-/

namespace NodeGate.Headers

open NodeGate.Text

variable {headers left right : Headers} {name : String}

/-- A private name is stored, with any value. -/
structure HasPrivate (headers : Headers) (name : String) : Prop where
  mark : "_sg_".toList <+: name.toList
  stored : ∃ value, headers.fields.get? name = some value

/-- A private name is stored, and the bytes of no other one come before its own. -/
structure LeastPrivate (headers : Headers) (name : String) : Prop extends
    headers.HasPrivate name where
  least : ∀ other, headers.HasPrivate other → other ≠ name →
    Utf8.ofString name < Utf8.ofString other

/-- The names that are stored and private are those that the search looks for. -/
theorem hasPrivate_iff :
    headers.HasPrivate name ↔ name ∈ headers.fields.names ∧ isPrivate name = true := by
  rw [NameMap.mem_names_iff, isPrivate, privateMark, List.isPrefixOf_iff_prefix]
  constructor
  · rintro ⟨mark, stored⟩
    exact ⟨stored, mark⟩
  · rintro ⟨stored, mark⟩
    exact ⟨mark, stored⟩

/-- Only one name is least. -/
theorem LeastPrivate.eq {first second : String} (firstLeast : headers.LeastPrivate first)
    (secondLeast : headers.LeastPrivate second) : first = second := by
  by_contra different
  have before := firstLeast.least second secondLeast.toHasPrivate (Ne.symm different)
  have after := secondLeast.least first firstLeast.toHasPrivate different
  exact List.lt_asymm before after

/-- Nothing is found where no private name is stored. -/
theorem firstPrivate?_eq_none_iff_forall :
    headers.firstPrivate? = none ↔ ∀ name, ¬ headers.HasPrivate name := by
  simp only [firstPrivate?, List.find?_eq_none, hasPrivate_iff, not_and]

/-- What is found is least: names are searched in rising order. -/
theorem leastPrivate_of_firstPrivate? (found : headers.firstPrivate? = some name) :
    headers.LeastPrivate name := by
  obtain ⟨marked, before, after, names, passed⟩ := List.find?_eq_some_iff_append.1 found
  have stored : name ∈ headers.fields.names := by
    rw [names]
    exact List.mem_append_right _ List.mem_cons_self
  refine ⟨hasPrivate_iff.2 ⟨stored, marked⟩, fun other otherHas different => ?_⟩
  obtain ⟨otherStored, otherPrivate⟩ := hasPrivate_iff.1 otherHas
  rw [names, List.mem_append, List.mem_cons] at otherStored
  have ordered := headers.fields.names_ordered
  rw [names, List.pairwise_append, List.pairwise_cons] at ordered
  rcases otherStored with earlier | same | later
  · -- Everything before the name was passed over, since it is not private.
    have unmarked := passed other earlier
    rw [otherPrivate] at unmarked
    cases unmarked
  · exact absurd same different
  · exact Utf8.ofString_lt_ofString (ordered.2.1.1 other later)

/-- A name is found exactly when it is the least private one. -/
theorem firstPrivate?_eq_some_iff :
    headers.firstPrivate? = some name ↔ headers.LeastPrivate name := by
  constructor
  · exact leastPrivate_of_firstPrivate?
  · intro leastPrivate
    cases found : headers.firstPrivate? with
    | none =>
        exact absurd leastPrivate.toHasPrivate (firstPrivate?_eq_none_iff_forall.1 found name)
    | some other => rw [(leastPrivate_of_firstPrivate? found).eq leastPrivate]

/-- Headers that store the same private names, with whatever values, have the same least one. -/
theorem firstPrivate?_congr (same : ∀ name, left.HasPrivate name ↔ right.HasPrivate name) :
    left.firstPrivate? = right.firstPrivate? := by
  have least (name : String) : left.LeastPrivate name ↔ right.LeastPrivate name := by
    constructor
    · rintro ⟨has, least⟩
      exact ⟨(same name).1 has, fun other otherHas => least other ((same other).2 otherHas)⟩
    · rintro ⟨has, least⟩
      exact ⟨(same name).2 has, fun other otherHas => least other ((same other).1 otherHas)⟩
  apply Option.ext
  intro name
  rw [firstPrivate?_eq_some_iff, firstPrivate?_eq_some_iff, least]

end NodeGate.Headers
