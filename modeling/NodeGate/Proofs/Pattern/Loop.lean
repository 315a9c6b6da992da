import NodeGate.Proofs.Pattern.Language

/-!
# Matching as a loop over positions

A match can be run as a loop that keeps a position in the pattern, one in the candidate, and the
last star with the position at which it was tried last. The position in the candidate moves
backwards when a star is tried again, so it is `Cursor.work` that every round lowers. The loop
halts within as many rounds as the two texts have places together, and answers what
`Pattern.isMatch` answers; `isMatch_decidesLanguage` puts this together with the language of the
pattern.
-/

namespace NodeGate.Pattern

/-- Where the loop stands. -/
structure Cursor where
  patternAt : Nat
  candidateAt : Nat
  /-- The position of the last star, and the position of the candidate at which it was tried. -/
  star : Option (Nat × Nat)
  deriving DecidableEq, Repr

/-- What comes of one round of the loop. -/
inductive Round where
  | answered (accepted : Bool)
  | goesOn (cursor : Cursor)
  deriving DecidableEq, Repr

namespace Cursor

/-- The loop begins at the front of both texts. -/
def start : Cursor := ⟨0, 0, none⟩

/-- The last star takes one more character, if there is one. -/
def goBack (cursor : Cursor) : Round :=
  match cursor.star with
  | some (star, tried) => .goesOn ⟨star + 1, tried + 1, some (star, tried + 1)⟩
  | none => .answered false

/-- One round of the loop. -/
def round (pattern candidate : List Char) (cursor : Cursor) : Round :=
  match candidate[cursor.candidateAt]? with
  | none => .answered ((pattern.drop cursor.patternAt).all (· = '*'))
  | some char =>
    match pattern[cursor.patternAt]? with
    | none => cursor.goBack
    | some expected =>
      if expected = '?' ∨ expected = char then
        .goesOn ⟨cursor.patternAt + 1, cursor.candidateAt + 1, cursor.star⟩
      else if expected = '*' then
        .goesOn
          ⟨cursor.patternAt + 1, cursor.candidateAt, some (cursor.patternAt, cursor.candidateAt)⟩
      else cursor.goBack

/-- The answer of the loop, if it comes within a number of rounds. -/
def loop (pattern candidate : List Char) : Nat → Cursor → Option Bool
  | 0, _ => none
  | rounds + 1, cursor =>
    match cursor.round pattern candidate with
    | .answered accepted => some accepted
    | .goesOn next => loop pattern candidate rounds next

variable {pattern candidate : List Char} {cursor next : Cursor} {round : Round}

/-- What a round can do, with the condition under which it does so. -/
inductive Turn (pattern candidate : List Char) (cursor : Cursor) : Round → Prop where
  /-- The candidate is used up. -/
  | ended (ended : candidate.drop cursor.candidateAt = []) :
      Turn pattern candidate cursor
        (.answered ((pattern.drop cursor.patternAt).all (· = '*')))
  /-- The two characters fit. -/
  | fitted {expected char : Char}
      (inPattern : pattern.drop cursor.patternAt =
        expected :: pattern.drop (cursor.patternAt + 1))
      (inCandidate : candidate.drop cursor.candidateAt =
        char :: candidate.drop (cursor.candidateAt + 1))
      (fits : expected = '?' ∨ expected = char) :
      Turn pattern candidate cursor
        (.goesOn ⟨cursor.patternAt + 1, cursor.candidateAt + 1, cursor.star⟩)
  /-- A star is met, and tried with no character at first. -/
  | starred {char : Char}
      (inPattern : pattern.drop cursor.patternAt = '*' :: pattern.drop (cursor.patternAt + 1))
      (inCandidate : candidate.drop cursor.candidateAt =
        char :: candidate.drop (cursor.candidateAt + 1))
      (notStar : char ≠ '*') :
      Turn pattern candidate cursor
        (.goesOn ⟨cursor.patternAt + 1, cursor.candidateAt,
          some (cursor.patternAt, cursor.candidateAt)⟩)
  /-- The pattern is stuck, and there is a star to go back to. -/
  | wentBack {star tried : Nat} (left : cursor.candidateAt < candidate.length)
      (stuck : advance (pattern.drop cursor.patternAt) (candidate.drop cursor.candidateAt) =
        .stuck)
      (last : cursor.star = some (star, tried)) :
      Turn pattern candidate cursor (.goesOn ⟨star + 1, tried + 1, some (star, tried + 1)⟩)
  /-- The pattern is stuck before its first star. -/
  | lost
      (stuck : advance (pattern.drop cursor.patternAt) (candidate.drop cursor.candidateAt) =
        .stuck)
      (none : cursor.star = none) :
      Turn pattern candidate cursor (.answered false)

/-- Going back is what a round does where the pattern is stuck. -/
theorem turn_goBack (left : cursor.candidateAt < candidate.length)
    (stuck : advance (pattern.drop cursor.patternAt) (candidate.drop cursor.candidateAt) =
      .stuck) : cursor.Turn pattern candidate cursor.goBack := by
  unfold goBack
  split
  · rename_i star tried last
    exact .wentBack left stuck last
  · rename_i none
    exact .lost stuck none

/-- A position with a character is followed by the positions behind it. -/
theorem drop_eq_cons_of_getElem? {text : List Char} {position : Nat} {char : Char}
    (there : text[position]? = some char) :
    text.drop position = char :: text.drop (position + 1) := by
  obtain ⟨within, rfl⟩ := List.getElem?_eq_some_iff.1 there
  exact List.drop_eq_getElem_cons within

/-- Every round does one of the things listed. -/
theorem turn_round (pattern candidate : List Char) (cursor : Cursor) :
    cursor.Turn pattern candidate (cursor.round pattern candidate) := by
  unfold Cursor.round
  cases inCandidate : candidate[cursor.candidateAt]? with
  | none =>
    apply Turn.ended
    rw [List.drop_eq_nil_iff]
    exact List.getElem?_eq_none_iff.1 inCandidate
  | some char =>
    obtain ⟨left, _⟩ := List.getElem?_eq_some_iff.1 inCandidate
    have candidateLeft := drop_eq_cons_of_getElem? inCandidate
    cases inPattern : pattern[cursor.patternAt]? with
    | none =>
      have used : pattern.drop cursor.patternAt = [] :=
        List.drop_eq_nil_iff.2 (List.getElem?_eq_none_iff.1 inPattern)
      exact turn_goBack left (by rw [used, candidateLeft, advance])
    | some expected =>
      have patternLeft := drop_eq_cons_of_getElem? inPattern
      by_cases fits : expected = '?' ∨ expected = char
      · simp only [if_pos fits]
        exact .fitted patternLeft candidateLeft fits
      · by_cases star : expected = '*'
        · subst star
          simp only [if_neg fits, if_true]
          exact .starred patternLeft candidateLeft fun same => fits (.inr same.symm)
        · simp only [if_neg fits, if_neg star]
          exact turn_goBack left (by rw [patternLeft, candidateLeft, advance, if_neg fits,
            if_neg star])

/-- The positions lie within their texts, and those of the last star lie behind. -/
structure Placed (pattern candidate : List Char) (cursor : Cursor) : Prop where
  inPattern : cursor.patternAt ≤ pattern.length
  behind : ∀ star tried, cursor.star = some (star, tried) →
    star < cursor.patternAt ∧ tried ≤ cursor.candidateAt

/-- The loop begins with its positions in place. -/
theorem placed_start (pattern candidate : List Char) : start.Placed pattern candidate where
  inPattern := Nat.zero_le _
  behind _ _ last := nomatch last

/-- A text that goes on from a position is longer than the position. -/
theorem lt_length_of_drop_eq_cons {text rest : List Char} {position : Nat} {char : Char}
    (left : text.drop position = char :: rest) : position < text.length := by
  apply Nat.lt_of_not_le
  intro beyond
  rw [List.drop_eq_nil_iff.2 beyond] at left
  cases left

/-- Every round keeps the positions in place. -/
theorem Placed.after (placed : cursor.Placed pattern candidate)
    (turn : cursor.Turn pattern candidate (.goesOn next)) : next.Placed pattern candidate := by
  cases turn with
  | fitted inPattern inCandidate fits =>
    refine ⟨lt_length_of_drop_eq_cons inPattern, fun star tried last => ?_⟩
    obtain ⟨before, earlier⟩ := placed.behind star tried last
    exact ⟨Nat.lt_succ_of_lt before, Nat.le_succ_of_le earlier⟩
  | starred inPattern inCandidate notStar =>
    refine ⟨lt_length_of_drop_eq_cons inPattern, fun star tried last => ?_⟩
    cases last
    exact ⟨Nat.lt_succ_self _, Nat.le_refl _⟩
  | wentBack left stuck last =>
    obtain ⟨before, _⟩ := placed.behind _ _ last
    refine ⟨Nat.le_trans before placed.inPattern, fun star tried last => ?_⟩
    cases last
    exact ⟨Nat.lt_succ_self _, Nat.le_refl _⟩

/-- A bound for the rounds that are left: for every place at which the last star may still be
tried one way through the pattern behind it, and the way that is under way. -/
def work (pattern candidate : List Char) (cursor : Cursor) : Nat :=
  match cursor.star with
  | some (star, tried) =>
    (pattern.length - star) * (candidate.length - tried) + (pattern.length - cursor.patternAt)
  | none =>
    (pattern.length + 1 - cursor.patternAt) * (candidate.length - cursor.candidateAt) +
      (pattern.length - cursor.patternAt)

/-- Every round that goes on leaves less work. -/
theorem work_lt (placed : cursor.Placed pattern candidate)
    (turn : cursor.Turn pattern candidate (.goesOn next)) :
    next.work pattern candidate < cursor.work pattern candidate := by
  cases turn with
  | fitted inPattern inCandidate fits =>
    have within := lt_length_of_drop_eq_cons inPattern
    unfold work
    cases cursor.star with
    | some last =>
      simp only
      omega
    | none =>
      have fewer : (pattern.length + 1 - (cursor.patternAt + 1)) *
            (candidate.length - (cursor.candidateAt + 1)) ≤
          (pattern.length + 1 - cursor.patternAt) * (candidate.length - cursor.candidateAt) :=
        Nat.mul_le_mul (by omega) (by omega)
      simp only
      omega
  | starred inPattern inCandidate notStar =>
    have within := lt_length_of_drop_eq_cons inPattern
    unfold work
    cases last : cursor.star with
    | some point =>
      obtain ⟨star, tried⟩ := point
      obtain ⟨before, earlier⟩ := placed.behind star tried last
      have fewer : (pattern.length - cursor.patternAt) *
            (candidate.length - cursor.candidateAt) ≤
          (pattern.length - star) * (candidate.length - tried) :=
        Nat.mul_le_mul (by omega) (by omega)
      simp only
      omega
    | none =>
      have fewer : (pattern.length - cursor.patternAt) *
            (candidate.length - cursor.candidateAt) ≤
          (pattern.length + 1 - cursor.patternAt) * (candidate.length - cursor.candidateAt) :=
        Nat.mul_le_mul (by omega) (Nat.le_refl _)
      simp only
      omega
  | @wentBack star tried left stuck last =>
    obtain ⟨before, earlier⟩ := placed.behind star tried last
    have within := placed.inPattern
    -- One place less to try the star at, and a whole way through the pattern behind it.
    have oneLess : candidate.length - tried = candidate.length - (tried + 1) + 1 := by omega
    simp only [work, last, oneLess, Nat.mul_add, Nat.mul_one]
    omega

/-- What following the pattern and trying the stars again comes to from where the loop stands. -/
def outlook (pattern candidate : List Char) (cursor : Cursor) : Bool :=
  match advance (pattern.drop cursor.patternAt) (candidate.drop cursor.candidateAt) with
  | .finished accepted => accepted
  | .star nextPattern nextCandidate => search nextPattern nextCandidate
  | .stuck =>
    match cursor.star with
    | some (star, tried) => search (pattern.drop (star + 1)) (candidate.drop (tried + 1))
    | none => false

/-- From the start, the loop comes to what is accepted. -/
theorem outlook_start (pattern candidate : List Char) :
    start.outlook pattern candidate = accepts pattern candidate := by
  simp only [outlook, start, List.drop_zero]
  unfold accepts
  cases advance pattern candidate <;> rfl

/-- From a star that was just set or moved on, the loop comes to what is found behind it. -/
theorem outlook_eq_search (star tried : Nat) :
    outlook pattern candidate ⟨star + 1, tried, some (star, tried)⟩ =
      search (pattern.drop (star + 1)) (candidate.drop tried) := by
  rw [search_eq, List.tail_drop]
  rfl

/-- A round that answers gives what the loop comes to. -/
theorem outlook_of_answered {accepted : Bool}
    (turn : cursor.Turn pattern candidate (.answered accepted)) :
    cursor.outlook pattern candidate = accepted := by
  cases turn with
  | ended ended => rw [outlook, ended, advance]
  | lost stuck none => simp only [outlook, stuck, none]

/-- A round that goes on does not change what the loop comes to. -/
theorem outlook_of_goesOn (turn : cursor.Turn pattern candidate (.goesOn next)) :
    next.outlook pattern candidate = cursor.outlook pattern candidate := by
  cases turn with
  | fitted inPattern inCandidate fits =>
    rw [outlook, outlook, inPattern, inCandidate, advance, if_pos fits]
  | starred inPattern inCandidate notStar =>
    rw [outlook_eq_search, outlook, inPattern, inCandidate, advance,
      if_neg (by simpa using notStar.symm), if_pos rfl]
  | wentBack left stuck last =>
    rw [outlook_eq_search]
    simp only [outlook, stuck, last]

/-- With more rounds than there is work, the loop answers what it comes to. -/
theorem loop_eq_some {rounds : Nat} (placed : cursor.Placed pattern candidate)
    (enough : cursor.work pattern candidate < rounds) :
    loop pattern candidate rounds cursor = some (cursor.outlook pattern candidate) := by
  induction rounds generalizing cursor with
  | zero => exact absurd enough (Nat.not_lt_zero _)
  | succ rounds inductionHypothesis =>
    have turn := turn_round pattern candidate cursor
    rw [loop]
    cases came : cursor.round pattern candidate with
    | answered accepted =>
      rw [came] at turn
      rw [outlook_of_answered turn]
    | goesOn next =>
      rw [came] at turn
      have less := work_lt placed turn
      have later := inductionHypothesis (placed.after turn) (by omega)
      rw [← outlook_of_goesOn turn]
      exact later

/-- The loop halts with what is accepted, within as many rounds as the two texts have places
together. -/
theorem loop_start {rounds : Nat}
    (enough : (pattern.length + 1) * (candidate.length + 1) ≤ rounds) :
    loop pattern candidate rounds start = some (accepts pattern candidate) := by
  rw [← outlook_start]
  apply loop_eq_some (placed_start pattern candidate)
  simp only [work, start, Nat.sub_zero]
  simp only [Nat.mul_add, Nat.mul_one] at enough
  omega

end Cursor

/-- A pattern decides over a candidate as its language says, as far as it can: whatever it matches
is in the language, and no candidate of the language is missed that holds no star. -/
structure DecidesLanguage (pattern : Pattern) (candidate : String) : Prop where
  /-- The loop over positions halts, and its answer is that of the pattern. -/
  halts : ∀ rounds, (pattern.text.toList.length + 1) * (candidate.toList.length + 1) ≤ rounds →
    Cursor.loop pattern.text.toList candidate.toList rounds Cursor.start =
      some (pattern.isMatch candidate)
  /-- Nothing outside the language is matched. -/
  sound : pattern.isMatch candidate = true → Derives pattern.text.toList candidate.toList
  /-- Nothing of the language is missed, where the candidate holds no star. -/
  complete : '*' ∉ candidate.toList → Derives pattern.text.toList candidate.toList →
    pattern.isMatch candidate = true
  /-- For a literal pattern the loop answers whether the two texts are equal. -/
  literal : pattern.isLiteral = true →
    ∀ rounds, (pattern.text.toList.length + 1) * (candidate.toList.length + 1) ≤ rounds →
      Cursor.loop pattern.text.toList candidate.toList rounds Cursor.start =
        some (pattern.text == candidate)

/-- Every pattern decides its language over every candidate, and a list of patterns matches what
some pattern of it matches. -/
theorem isMatch_decidesLanguage (pattern : Pattern) (patterns : List Pattern)
    (candidate : String) :
    pattern.DecidesLanguage candidate ∧
      (anyMatch patterns candidate = true ↔
        ∃ member ∈ patterns, member.isMatch candidate = true) := by
  refine ⟨⟨?_, ?_, ?_, ?_⟩, List.any_eq_true⟩
  · intro rounds enough
    rw [Cursor.loop_start enough, isMatch_eq_accepts]
  · intro matched
    rw [isMatch_eq_accepts] at matched
    exact derives_of_accepts matched
  · intro noStar derived
    rw [isMatch_eq_accepts]
    exact accepts_of_derives noStar derived
  · intro literal rounds enough
    rw [Cursor.loop_start enough, ← isMatch_eq_accepts, isMatch, if_pos literal]

/-- A star in the candidate is taken for the star of the pattern, and then nothing is left to stand
for what is behind it. -/
example : Derives "a*".toList "a*b".toList ∧ (Pattern.mk "a*").isMatch "a*b" = false :=
  ⟨.itself (by decide) (by decide) (.star ['*', 'b'] .nil), by decide⟩

end NodeGate.Pattern
