/-!
# Splitting at a separator

`split` cuts a text at every separator and `join` puts the pieces together again; the two are
inverse in the direction `join_split`. A text always has at least one piece, possibly empty.
-/

namespace NodeGate.Text

/-- The pieces between the separators, empty ones included. -/
def split (separator : Char) : List Char → List (List Char)
  | [] => [[]]
  | char :: rest =>
    if char = separator then [] :: split separator rest
    else
      match split separator rest with
      | [] => [[char]]
      | first :: others => (char :: first) :: others

/-- The pieces with one separator between each two. -/
def join (separator : Char) : List (List Char) → List Char
  | [] => []
  | [piece] => piece
  | piece :: next :: others => piece ++ separator :: join separator (next :: others)

/-- There is at least one piece. -/
theorem split_ne_nil (separator : Char) (text : List Char) : split separator text ≠ [] := by
  cases text with
  | nil => simp [split]
  | cons char rest =>
    by_cases same : char = separator
    · simp [split, same]
    · simp only [split, same, if_false]
      split <;> simp

/-- Joining what was split gives the text back. -/
theorem join_split (separator : Char) (text : List Char) :
    join separator (split separator text) = text := by
  induction text with
  | nil => rfl
  | cons char rest inductionHypothesis =>
    have nonempty := split_ne_nil separator rest
    by_cases same : char = separator
    · subst same
      cases pieces : split char rest with
      | nil => exact absurd pieces nonempty
      | cons first others =>
        rw [pieces] at inductionHypothesis
        simp [split, pieces, join, inductionHypothesis]
    · cases pieces : split separator rest with
      | nil => exact absurd pieces nonempty
      | cons first others =>
        rw [pieces] at inductionHypothesis
        cases others with
        | nil => simpa [split, pieces, join, same] using inductionHypothesis
        | cons next more => simpa [split, pieces, join, same] using inductionHypothesis

end NodeGate.Text
