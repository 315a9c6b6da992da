import Mathlib.Data.List.TakeWhile
import NodeGate.Text.Blank

/-!
# What trimming takes away

Trimming takes away blanks at the two ends and nothing else (`exists_eq_append_trim`), and blanks
that are put there make no difference to it. So the visible characters of a text are those that are
left, in their order.
-/

namespace NodeGate.Text

/-- A text of blanks alone. -/
def AllBlank (text : List Char) : Prop :=
  ∀ char ∈ text, isBlank char = true

/-- The characters of a text that are not blank, in their order. -/
def visible (text : List Char) : List Char :=
  text.filter fun char => !isBlank char

variable {text blanks : List Char}

/-- Blanks in front of a text are trimmed. -/
theorem trim_blanks_append (blank : AllBlank blanks) : trim (blanks ++ text) = trim text := by
  rw [trim, trim, trimLeft, trimLeft, List.dropWhile_append_of_pos blank]

/-- Blanks behind a text are trimmed on the right. -/
theorem trimRight_append_blanks (blank : AllBlank blanks) :
    trimRight (text ++ blanks) = trimRight text := by
  have reversed : ∀ char ∈ blanks.reverse, isBlank char = true :=
    fun char member => blank char (List.mem_reverse.1 member)
  rw [trimRight, trimRight, List.reverse_append, List.dropWhile_append_of_pos reversed]

/-- Blanks behind a text are trimmed. -/
theorem trim_append_blanks (blank : AllBlank blanks) : trim (text ++ blanks) = trim text := by
  have nothing : blanks.dropWhile isBlank = [] := List.dropWhile_eq_nil_iff.2 blank
  rw [trim, trim, trimLeft, trimLeft, List.dropWhile_append]
  split
  · rename_i empty
    rw [nothing, List.isEmpty_iff.1 empty]
  · exact trimRight_append_blanks blank

/-- A text is its trimmed form between blanks. -/
theorem exists_eq_append_trim (text : List Char) :
    ∃ front back, AllBlank front ∧ AllBlank back ∧ text = front ++ (trim text ++ back) := by
  have taken (part : List Char) : AllBlank (part.takeWhile isBlank) :=
    List.all_eq_true.1 List.all_takeWhile
  have right : trimLeft text =
      trim text ++ ((trimLeft text).reverse.takeWhile isBlank).reverse := by
    rw [trim, trimRight, ← List.reverse_append, List.takeWhile_append_dropWhile,
      List.reverse_reverse]
  refine ⟨text.takeWhile isBlank, ((trimLeft text).reverse.takeWhile isBlank).reverse, taken text,
    fun char member => taken _ char (List.mem_reverse.1 member), ?_⟩
  rw [← right, trimLeft, List.takeWhile_append_dropWhile]

/-- Nothing of a text of blanks is visible. -/
theorem visible_of_allBlank (blank : AllBlank blanks) : visible blanks = [] := by
  rw [visible, List.filter_eq_nil_iff]
  intro char member
  simp [blank char member]

/-- What is visible of two texts, one behind the other. -/
theorem visible_append (left right : List Char) :
    visible (left ++ right) = visible left ++ visible right :=
  List.filter_append left right

/-- A character that is not blank is visible. -/
theorem visible_cons {char : Char} (shown : isBlank char = false) (rest : List Char) :
    visible (char :: rest) = char :: visible rest := by
  simp [visible, shown]

/-- Trimming takes away nothing visible. -/
theorem visible_trim (text : List Char) : visible (trim text) = visible text := by
  obtain ⟨front, back, frontBlank, backBlank, parts⟩ := exists_eq_append_trim text
  have seen := congrArg visible parts
  rw [visible_append, visible_append, visible_of_allBlank frontBlank,
    visible_of_allBlank backBlank, List.nil_append, List.append_nil] at seen
  exact seen.symm

end NodeGate.Text
