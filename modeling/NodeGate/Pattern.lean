/-!
# Glob patterns

A pattern is a text in which a star stands for any run of characters and a question mark for one
character. Matching goes from left to right and returns only to the last star: `Pattern.advance`
follows the pattern up to its next star, and `Pattern.search` moves the point at which the piece
after a star is tried. A pattern character that equals the character opposite it is taken
literally first, also when it is a star.
-/

namespace NodeGate

/-- A glob pattern as it was written. -/
structure Pattern where
  text : String
  deriving DecidableEq, Repr

namespace Pattern

/-- A literal pattern has neither star nor question mark. -/
def isLiteral (pattern : Pattern) : Bool :=
  pattern.text.toList.all fun char => char ≠ '*' && char ≠ '?'

/-- Where following a pattern from one place of a candidate ends. -/
inductive Progress where
  /-- The candidate is used up; the rest of the pattern accepts or refuses the empty text. -/
  | finished (accepted : Bool)
  /-- A star was met that does not stand opposite a star. -/
  | star (pattern candidate : List Char)
  /-- The next character does not fit. -/
  | stuck
  deriving DecidableEq, Repr

/-- Follow the pattern character by character up to the next star. -/
def advance : List Char → List Char → Progress
  | pattern, [] => .finished (pattern.all (· = '*'))
  | [], _ :: _ => .stuck
  | expected :: pattern, char :: candidate =>
    if expected = '?' ∨ expected = char then advance pattern candidate
    else if expected = '*' then .star pattern (char :: candidate)
    else .stuck

/-- The pattern that is left after a star is shorter than before. -/
theorem length_lt_of_advance_eq_star {pattern candidate nextPattern nextCandidate : List Char}
    (met : advance pattern candidate = .star nextPattern nextCandidate) :
    nextPattern.length < pattern.length := by
  fun_induction advance pattern candidate with
  | case1 => simp at met
  | case2 => simp at met
  | case3 expected pattern char candidate _ inductionHypothesis =>
    exact Nat.lt_succ_of_lt (inductionHypothesis met)
  | case4 =>
    simp only [Progress.star.injEq] at met
    simp [met.1]
  | case5 => simp at met

/-- Match what follows a star, trying every later place of the candidate from the first on. Once
the next star is met, the place found is kept. -/
def search (pattern candidate : List Char) : Bool :=
  match _met : advance pattern candidate with
  | .finished accepted => accepted
  | .star nextPattern nextCandidate => search nextPattern nextCandidate
  | .stuck =>
    match candidate with
    | [] => false
    | _ :: rest => search pattern rest
termination_by (pattern.length, candidate.length)
decreasing_by
  · exact Prod.Lex.left _ _ (length_lt_of_advance_eq_star _met)
  · exact Prod.Lex.right _ (Nat.lt_succ_self _)

/-- Match a whole candidate: before the first star there is nothing to return to. -/
def accepts (pattern candidate : List Char) : Bool :=
  match advance pattern candidate with
  | .finished accepted => accepted
  | .star nextPattern nextCandidate => search nextPattern nextCandidate
  | .stuck => false

/-- Whether the candidate is an instance of the pattern. A literal pattern is compared whole. -/
def isMatch (pattern : Pattern) (candidate : String) : Bool :=
  if pattern.isLiteral then pattern.text == candidate
  else accepts pattern.text.toList candidate.toList

/-- Whether some pattern of the list matches. -/
def anyMatch (patterns : List Pattern) (candidate : String) : Bool :=
  patterns.any (·.isMatch candidate)

end Pattern

end NodeGate
