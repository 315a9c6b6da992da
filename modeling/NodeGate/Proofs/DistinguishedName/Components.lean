import NodeGate.DistinguishedName
import NodeGate.Proofs.Text.Trim

/-!
# A name by its components

A distinguished name is normalised component by component: `normalizeChars_append` cuts a name at
any of its commas, and `component_induction` takes it apart from the first component on. A component
in turn is cut at its first equals sign (`normalizeComponent_sign`). What is visible of a name stays
(`visible_normalizeChars`).
-/

namespace NodeGate

namespace Text

variable {separator : Char}

/-- A text without separators is one piece. -/
theorem split_of_not_mem {text : List Char} (absent : separator ∉ text) :
    split separator text = [text] := by
  induction text with
  | nil => rfl
  | cons char rest inductionHypothesis =>
      have different : char ≠ separator := fun same => absent (same ▸ List.mem_cons_self)
      have others := inductionHypothesis fun later => absent (List.mem_cons_of_mem _ later)
      simp [split, different, others]

/-- A text is split at a separator by splitting what stands on either side. -/
theorem split_append (front back : List Char) :
    split separator (front ++ separator :: back) =
      split separator front ++ split separator back := by
  induction front with
  | nil => simp [split]
  | cons char rest inductionHypothesis =>
      by_cases same : char = separator
      · simp [split, same, inductionHypothesis]
      · obtain ⟨first, others, pieces⟩ := List.exists_cons_of_ne_nil (split_ne_nil separator rest)
        simp [split, same, inductionHypothesis, pieces]

/-- Pieces are joined by joining the first and the last ones. -/
theorem join_append {front back : List (List Char)} (frontSome : front ≠ [])
    (backSome : back ≠ []) :
    join separator (front ++ back) = join separator front ++ separator :: join separator back := by
  induction front with
  | nil => exact absurd rfl frontSome
  | cons piece rest inductionHypothesis =>
      cases rest with
      | nil =>
          obtain ⟨first, others, rfl⟩ := List.exists_cons_of_ne_nil backSome
          rfl
      | cons next more =>
          have later := inductionHypothesis (List.cons_ne_nil next more)
          simp only [List.cons_append, join] at later ⊢
          rw [later, List.append_assoc, List.cons_append]

end Text

namespace DistinguishedName

open NodeGate.Text

/-- A component without an equals sign is trimmed. -/
theorem normalizeComponent_of_not_mem {component : List Char} (unsigned : '=' ∉ component) :
    normalizeComponent component = trim component := by
  have nothing : component.dropWhile (· ≠ '=') = [] := List.dropWhile_eq_nil_iff.2
    fun char member => decide_eq_true fun same => unsigned (same ▸ member)
  rw [normalizeComponent, nothing]

/-- A component is trimmed on either side of its first equals sign. -/
theorem normalizeComponent_sign {key : List Char} (unsigned : '=' ∉ key) (value : List Char) :
    normalizeComponent (key ++ '=' :: value) = trim key ++ '=' :: trim value := by
  have passed : ∀ char ∈ key, decide (char ≠ '=') = true := fun char member =>
    decide_eq_true fun same => unsigned (same ▸ member)
  rw [normalizeComponent, List.dropWhile_append_of_pos passed, List.takeWhile_append_of_pos passed]
  simp

/-- Normalising a component keeps what is visible of it. -/
theorem visible_normalizeComponent (component : List Char) :
    visible (normalizeComponent component) = visible component := by
  by_cases signed : '=' ∈ component
  · obtain ⟨key, value, rfl, unsigned⟩ := List.eq_append_cons_of_mem signed
    have shown : isBlank '=' = false := by decide
    rw [normalizeComponent_sign unsigned, visible_append, visible_append, visible_cons shown,
      visible_cons shown, visible_trim, visible_trim]
  · rw [normalizeComponent_of_not_mem signed, visible_trim]

/-- A name without commas is one component. -/
theorem normalizeChars_of_not_mem {component : List Char} (whole : ',' ∉ component) :
    normalizeChars component = normalizeComponent component := by
  rw [normalizeChars, split_of_not_mem whole]
  rfl

/-- A name is normalised on either side of any comma. -/
theorem normalizeChars_append (front back : List Char) :
    normalizeChars (front ++ ',' :: back) = normalizeChars front ++ ',' :: normalizeChars back := by
  have pieces (text : List Char) : (split ',' text).map normalizeComponent ≠ [] :=
    fun none => split_ne_nil ',' text (List.map_eq_nil_iff.1 none)
  rw [normalizeChars, split_append, List.map_append, join_append (pieces front) (pieces back)]
  rfl

/-- A name is its last component, or has a component in front of another name. -/
@[elab_as_elim]
theorem component_induction {motive : List Char → Prop}
    (last : ∀ component, ',' ∉ component → motive component)
    (front : ∀ component rest, ',' ∉ component → motive rest → motive (component ++ ',' :: rest))
    (name : List Char) : motive name := by
  by_cases comma : ',' ∈ name
  · obtain ⟨component, rest, parts, whole⟩ := List.eq_append_cons_of_mem comma
    rw [parts]
    exact front component rest whole (component_induction last front rest)
  · exact last name comma
termination_by name.length
decreasing_by
  rw [parts, List.length_append, List.length_cons]
  omega

/-- Normalising a name keeps what is visible of it. -/
theorem visible_normalizeChars (name : List Char) :
    visible (normalizeChars name) = visible name := by
  induction name using component_induction with
  | last component whole =>
      rw [normalizeChars_of_not_mem whole, visible_normalizeComponent]
  | front component rest whole inductionHypothesis =>
      have shown : isBlank ',' = false := by decide
      rw [normalizeChars_append, normalizeChars_of_not_mem whole, visible_append, visible_append,
        visible_cons shown, visible_cons shown, visible_normalizeComponent, inductionHypothesis]

end DistinguishedName

end NodeGate
