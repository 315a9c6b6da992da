import NodeGate.Pattern

/-!
# The language of a pattern

`Derives` says which texts the characters of a pattern stand for. Whatever is accepted is one of
them (`derives_of_accepts`). Going back to the last star alone loses none of them, as long as the
text itself holds no star (`accepts_of_derives`): where the piece between two stars fits, an earlier
place for it leaves more of the text to the next star, so the first place is as good as any.
Comparing a literal pattern whole comes to the same (`isMatch_eq_accepts`). `Fits` is what later
results say of a text and a pattern. Of a plain text with a star behind it more is known: what it
accepts among all texts, those with a star of their own included (`accepts_plain_star_iff`).
-/

namespace NodeGate.Pattern

/-- The texts that the characters of a pattern stand for. -/
inductive Derives : List Char → List Char → Prop where
  | nil : Derives [] []
  /-- A star stands for any run of characters, also for none. -/
  | star (run : List Char) {pattern rest : List Char} (behind : Derives pattern rest) :
      Derives ('*' :: pattern) (run ++ rest)
  /-- A question mark stands for one character, whichever it is. -/
  | one (char : Char) {pattern rest : List Char} (behind : Derives pattern rest) :
      Derives ('?' :: pattern) (char :: rest)
  /-- Any other character stands for itself. -/
  | itself {char : Char} {pattern rest : List Char} (notStar : char ≠ '*') (notMark : char ≠ '?')
      (behind : Derives pattern rest) : Derives (char :: pattern) (char :: rest)

variable {pattern candidate rest nextPattern nextCandidate front : List Char}
  {expected char : Char}

/-- A pattern that begins with a star stands for what ends with a text of the rest of it. -/
theorem derives_star_iff :
    Derives ('*' :: pattern) candidate ↔ ∃ rest, rest <:+ candidate ∧ Derives pattern rest := by
  constructor
  · intro derived
    cases derived with
    | star run behind => exact ⟨_, List.suffix_append run _, behind⟩
    | itself notStar => exact absurd rfl notStar
  · rintro ⟨rest, ⟨run, rfl⟩, behind⟩
    exact .star run behind

/-- A pattern that begins otherwise stands for texts with a fitting first character. -/
theorem derives_cons_iff (notStar : expected ≠ '*') :
    Derives (expected :: pattern) candidate ↔
      ∃ char rest, candidate = char :: rest ∧ (expected = '?' ∨ expected = char) ∧
        Derives pattern rest := by
  constructor
  · intro derived
    cases derived with
    | star run behind => exact absurd rfl notStar
    | one char behind => exact ⟨char, _, rfl, .inl rfl, behind⟩
    | itself _ _ behind => exact ⟨expected, _, rfl, .inr rfl, behind⟩
  · rintro ⟨char, rest, rfl, fits, behind⟩
    by_cases mark : expected = '?'
    · subst mark
      exact .one char behind
    · cases fits.resolve_left mark
      exact .itself notStar mark behind

/-- A fitting character in front keeps a derivation, also where both are stars. -/
theorem Derives.cons_of_fits (fits : expected = '?' ∨ expected = char)
    (derived : Derives pattern candidate) : Derives (expected :: pattern) (char :: candidate) := by
  by_cases star : expected = '*'
  · subst star
    exact .star [char] derived
  · exact (derives_cons_iff star).2 ⟨char, candidate, rfl, fits, derived⟩

/-- Only stars stand for the empty text. -/
theorem derives_nil_iff : Derives pattern [] ↔ pattern.all (· = '*') = true := by
  induction pattern with
  | nil =>
    simp only [List.all_nil, iff_true]
    exact .nil
  | cons expected pattern inductionHypothesis =>
    by_cases star : expected = '*'
    · subst star
      simp [derives_star_iff, inductionHypothesis]
    · simp [derives_cons_iff star, star]

/-- Where the candidate is used up and the rest of the pattern accepts that, the pattern stands for
the candidate. -/
theorem derives_of_advance_finished (met : advance pattern candidate = .finished true) :
    Derives pattern candidate := by
  fun_induction advance pattern candidate with
  | case1 pattern => exact derives_nil_iff.2 (by simpa using met)
  | case2 => simp at met
  | case3 expected pattern char candidate fits inductionHypothesis =>
    exact (inductionHypothesis met).cons_of_fits fits
  | case4 => simp at met
  | case5 => simp at met

/-- Where a star was met, it may stand for everything up to a text of the pattern behind it. -/
theorem derives_of_advance_star (met : advance pattern candidate = .star nextPattern nextCandidate)
    (later : rest <:+ nextCandidate) (derived : Derives nextPattern rest) :
    Derives pattern candidate := by
  fun_induction advance pattern candidate with
  | case1 => simp at met
  | case2 => simp at met
  | case3 expected pattern char candidate fits inductionHypothesis =>
    exact (inductionHypothesis met).cons_of_fits fits
  | case4 pattern char candidate =>
    cases met
    exact derives_star_iff.2 ⟨rest, later, derived⟩
  | case5 => simp at met

/-- What is found after a star is a text of the pattern at the end of the candidate. -/
theorem exists_derives_of_search (found : search pattern candidate = true) :
    ∃ rest, rest <:+ candidate ∧ Derives pattern rest := by
  fun_induction search pattern candidate with
  | case1 pattern candidate accepted met =>
    subst found
    exact ⟨candidate, List.suffix_refl _, derives_of_advance_finished met⟩
  | case2 pattern candidate nextPattern nextCandidate met inductionHypothesis =>
    obtain ⟨rest, later, derived⟩ := inductionHypothesis found
    exact ⟨candidate, List.suffix_refl _, derives_of_advance_star met later derived⟩
  | case3 => simp at found
  | case4 pattern char candidate met inductionHypothesis =>
    obtain ⟨rest, later, derived⟩ := inductionHypothesis found
    exact ⟨rest, later.trans (List.suffix_cons char candidate), derived⟩

/-- An accepted candidate is one that the pattern stands for. -/
theorem derives_of_accepts (accepted : accepts pattern candidate = true) :
    Derives pattern candidate := by
  unfold accepts at accepted
  split at accepted
  · rename_i met
    subst accepted
    exact derives_of_advance_finished met
  · rename_i met
    obtain ⟨rest, later, derived⟩ := exists_derives_of_search accepted
    exact derives_of_advance_star met later derived
  · cases accepted

/-- A fitting character is no star where the character opposite it is none. -/
theorem ne_star_of_fits (noStar : '*' ∉ char :: candidate)
    (fits : expected = '?' ∨ expected = char) : expected ≠ '*' := by
  rintro rfl
  rcases fits with mark | same
  · cases mark
  · exact noStar (same ▸ List.mem_cons_self)

/-- A derivation of a later part of a text goes on past a fitting character. -/
theorem exists_derives_tail (noStar : '*' ∉ char :: candidate)
    (fits : expected = '?' ∨ expected = char) (derived : Derives (expected :: pattern) rest)
    (later : rest <:+ char :: candidate) :
    ∃ tail, tail <:+ candidate ∧ Derives pattern tail := by
  obtain ⟨first, tail, rfl, _, behind⟩ :=
    (derives_cons_iff (ne_star_of_fits noStar fits)).1 derived
  refine ⟨tail, ?_, behind⟩
  rcases List.suffix_cons_iff.1 later with whole | later
  · cases whole
    exact List.suffix_refl _
  · exact (List.suffix_cons first tail).trans later

/-- Where following the pattern uses up the candidate, and the pattern stands for a later part of
it, the rest of the pattern accepts that. -/
theorem accepted_of_advance_finished {accepted : Bool} (noStar : '*' ∉ candidate)
    (met : advance pattern candidate = .finished accepted) (later : rest <:+ candidate)
    (derived : Derives pattern rest) : accepted = true := by
  fun_induction advance pattern candidate generalizing rest with
  | case1 pattern =>
    cases List.suffix_nil.1 later
    cases met
    exact derives_nil_iff.1 derived
  | case2 => simp at met
  | case3 expected pattern char candidate fits inductionHypothesis =>
    obtain ⟨tail, later, behind⟩ := exists_derives_tail noStar fits derived later
    exact inductionHypothesis (fun member => noStar (List.mem_cons_of_mem _ member)) met later
      behind
  | case4 => simp at met
  | case5 => simp at met

/-- Where following the pattern meets a star, and the pattern stands for a later part of the
candidate, what is behind the star stands for a later part of what is left. -/
theorem exists_derives_of_advance_star (noStar : '*' ∉ candidate)
    (met : advance pattern candidate = .star nextPattern nextCandidate)
    (later : rest <:+ candidate) (derived : Derives pattern rest) :
    ∃ tail, tail <:+ nextCandidate ∧ Derives nextPattern tail := by
  fun_induction advance pattern candidate generalizing rest with
  | case1 => simp at met
  | case2 => simp at met
  | case3 expected pattern char candidate fits inductionHypothesis =>
    obtain ⟨tail, later, behind⟩ := exists_derives_tail noStar fits derived later
    exact inductionHypothesis (fun member => noStar (List.mem_cons_of_mem _ member)) met later
      behind
  | case4 pattern char candidate =>
    cases met
    obtain ⟨tail, shorter, behind⟩ := derives_star_iff.1 derived
    exact ⟨tail, shorter.trans later, behind⟩
  | case5 => simp at met

/-- Where following the pattern gets stuck, the pattern does not stand for the candidate. -/
theorem not_derives_of_advance_stuck (noStar : '*' ∉ candidate)
    (met : advance pattern candidate = .stuck) : ¬ Derives pattern candidate := by
  fun_induction advance pattern candidate with
  | case1 => simp at met
  | case2 =>
    intro derived
    cases derived
  | case3 expected pattern char candidate fits inductionHypothesis =>
    intro derived
    obtain ⟨first, tail, whole, _, behind⟩ :=
      (derives_cons_iff (ne_star_of_fits noStar fits)).1 derived
    cases whole
    exact inductionHypothesis (fun member => noStar (List.mem_cons_of_mem _ member)) met behind
  | case4 => simp at met
  | case5 expected pattern char candidate unfit notStar =>
    intro derived
    obtain ⟨first, tail, whole, fits, _⟩ := (derives_cons_iff notStar).1 derived
    cases whole
    exact unfit fits

/-- What is left at a star is the end of the candidate. -/
theorem suffix_of_advance_star (met : advance pattern candidate = .star nextPattern nextCandidate) :
    nextCandidate <:+ candidate := by
  fun_induction advance pattern candidate with
  | case1 => simp at met
  | case2 => simp at met
  | case3 expected pattern char candidate _ inductionHypothesis =>
    exact (inductionHypothesis met).trans (List.suffix_cons char candidate)
  | case4 =>
    cases met
    exact List.suffix_refl _
  | case5 => simp at met

/-- The search after a star finds a text of the pattern at the end of the candidate. -/
theorem search_of_derives (noStar : '*' ∉ candidate) (later : rest <:+ candidate)
    (derived : Derives pattern rest) : search pattern candidate = true := by
  fun_induction search pattern candidate generalizing rest with
  | case1 pattern candidate accepted met =>
    exact accepted_of_advance_finished noStar met later derived
  | case2 pattern candidate nextPattern nextCandidate met inductionHypothesis =>
    obtain ⟨tail, later, behind⟩ := exists_derives_of_advance_star noStar met later derived
    have noStarLeft : '*' ∉ nextCandidate := fun member =>
      noStar ((suffix_of_advance_star met).subset member)
    exact inductionHypothesis noStarLeft later behind
  | case3 pattern met =>
    cases List.suffix_nil.1 later
    exact absurd derived (not_derives_of_advance_stuck noStar met)
  | case4 pattern char candidate met inductionHypothesis =>
    -- The pattern does not fit here, so the text that it stands for begins later.
    rcases List.suffix_cons_iff.1 later with rfl | later
    · exact absurd derived (not_derives_of_advance_stuck noStar met)
    · exact inductionHypothesis (fun member => noStar (List.mem_cons_of_mem _ member)) later
        derived

/-- A candidate without a star is accepted where the pattern stands for it. -/
theorem accepts_of_derives (noStar : '*' ∉ candidate) (derived : Derives pattern candidate) :
    accepts pattern candidate = true := by
  unfold accepts
  split
  · rename_i met
    exact accepted_of_advance_finished noStar met (List.suffix_refl _) derived
  · rename_i met
    obtain ⟨tail, later, behind⟩ :=
      exists_derives_of_advance_star noStar met (List.suffix_refl _) derived
    have noStarLeft : '*' ∉ _ := fun member => noStar ((suffix_of_advance_star met).subset member)
    exact search_of_derives noStarLeft later behind
  · rename_i met
    exact absurd derived (not_derives_of_advance_stuck noStar met)

/-- Characters without star and question mark. -/
def Plain (chars : List Char) : Prop :=
  ∀ char ∈ chars, char ≠ '*' ∧ char ≠ '?'

/-- A literal pattern is one with plain characters. -/
theorem isLiteral_iff {pattern : Pattern} :
    pattern.isLiteral = true ↔ Plain pattern.text.toList := by
  simp [isLiteral, Plain]

/-- Plain characters in front of a pattern stand for themselves. -/
theorem derives_plain_append_iff (plain : Plain front) :
    Derives (front ++ pattern) candidate ↔
      ∃ rest, candidate = front ++ rest ∧ Derives pattern rest := by
  induction front generalizing candidate with
  | nil => simp
  | cons char front inductionHypothesis =>
    obtain ⟨notStar, notMark⟩ := plain char List.mem_cons_self
    have others : Plain front := fun other member => plain other (List.mem_cons_of_mem _ member)
    rw [List.cons_append, derives_cons_iff notStar]
    constructor
    · rintro ⟨first, tail, rfl, fits, derived⟩
      obtain ⟨rest, rfl, behind⟩ := (inductionHypothesis others).1 derived
      cases fits.resolve_left notMark
      exact ⟨rest, rfl, behind⟩
    · rintro ⟨rest, rfl, behind⟩
      exact ⟨char, front ++ rest, rfl, .inr rfl,
        (inductionHypothesis others).2 ⟨rest, rfl, behind⟩⟩

/-- Plain characters stand for themselves alone. -/
theorem derives_plain_iff (plain : Plain pattern) :
    Derives pattern candidate ↔ candidate = pattern := by
  have whole : Derives (pattern ++ []) candidate ↔
      ∃ rest, candidate = pattern ++ rest ∧ Derives [] rest := derives_plain_append_iff plain
  rw [← List.append_nil pattern, whole, List.append_nil]
  constructor
  · rintro ⟨rest, rfl, derived⟩
    cases derived
    exact List.append_nil pattern
  · rintro rfl
    exact ⟨[], (List.append_nil candidate).symm, .nil⟩

/-- Comparing a literal pattern whole comes to the same as following it. -/
theorem isMatch_eq_accepts (pattern : Pattern) (candidate : String) :
    pattern.isMatch candidate = accepts pattern.text.toList candidate.toList := by
  unfold isMatch
  split
  · rename_i literal
    have plain := isLiteral_iff.1 literal
    have noStar : '*' ∉ pattern.text.toList := fun member => (plain '*' member).1 rfl
    rw [Bool.eq_iff_iff, beq_iff_eq]
    constructor
    · rintro rfl
      exact accepts_of_derives noStar ((derives_plain_iff plain).2 rfl)
    · intro accepted
      have same := (derives_plain_iff plain).1 (derives_of_accepts accepted)
      exact (String.toList_inj.1 same).symm
  · rfl

/-- A text fits a pattern: it is one of those that the pattern stands for. Of texts that hold a star
themselves a pattern takes some and misses others, and only there it is matching that decides. -/
inductive Fits (pattern : Pattern) (candidate : String) : Prop where
  | derived (noStar : '*' ∉ candidate.toList)
      (derived : Derives pattern.text.toList candidate.toList) : Fits pattern candidate
  | matched (star : '*' ∈ candidate.toList) (matched : pattern.isMatch candidate = true) :
      Fits pattern candidate

/-- The texts that fit a pattern are those that it matches. -/
theorem fits_iff {pattern : Pattern} {candidate : String} :
    pattern.Fits candidate ↔ pattern.isMatch candidate = true := by
  constructor
  · rintro (⟨noStar, derived⟩ | ⟨_, matched⟩)
    · rw [isMatch_eq_accepts]
      exact accepts_of_derives noStar derived
    · exact matched
  · intro matched
    by_cases star : '*' ∈ candidate.toList
    · exact .matched star matched
    · rw [isMatch_eq_accepts] at matched
      exact .derived star (derives_of_accepts matched)

/-- The search by what comes of following the pattern: where that is stuck, it goes on at the next
place. -/
theorem search_eq (pattern candidate : List Char) :
    search pattern candidate =
      match advance pattern candidate with
      | .finished accepted => accepted
      | .star nextPattern nextCandidate => search nextPattern nextCandidate
      | .stuck => search pattern candidate.tail := by
  fun_cases search pattern candidate with
  | case1 candidate accepted met => rw [met]
  | case2 candidate nextPattern nextCandidate met => rw [met]
  | case3 met =>
    rw [advance] at met
    cases met
  | case4 char rest met => rw [met, List.tail_cons]

/-- What stands in front of both texts is followed. -/
theorem accepts_append (front pattern candidate : List Char) :
    accepts (front ++ pattern) (front ++ candidate) = accepts pattern candidate := by
  have followed : advance (front ++ pattern) (front ++ candidate) = advance pattern candidate := by
    induction front with
    | nil => rfl
    | cons char front inductionHypothesis =>
      rw [List.cons_append, List.cons_append, advance, if_pos (.inr rfl), inductionHypothesis]
  rw [accepts, accepts, followed]

/-- Behind a last star anything is found. -/
theorem search_nil (candidate : List Char) : search [] candidate = true := by
  induction candidate with
  | nil =>
    rw [search_eq]
    rfl
  | cons char rest inductionHypothesis =>
    rw [search_eq]
    exact inductionHypothesis

/-- A star alone accepts every text but a longer one that begins with a star. -/
theorem accepts_star_iff :
    accepts ['*'] candidate = true ↔ ∀ rest, candidate = '*' :: rest → rest = [] := by
  cases candidate with
  | nil => simp [accepts, advance]
  | cons char behind =>
    by_cases star : char = '*'
    · subst star
      cases behind with
      | nil => simp [accepts, advance]
      | cons next more => simp [accepts, advance]
    · have met : advance ['*'] (char :: behind) = .star [] (char :: behind) := by
        rw [advance, if_neg (by simpa using fun same => star same.symm), if_pos rfl]
      simp [accepts, met, search_nil, star]

/-- A plain text with a star behind it accepts what begins with the text, unless a star and more
follow it. -/
theorem accepts_plain_star_iff (plain : Plain front) :
    accepts (front ++ ['*']) candidate = true ↔
      front <+: candidate ∧ ∀ rest, candidate = front ++ '*' :: rest → rest = [] := by
  constructor
  · intro accepted
    obtain ⟨behind, rfl, _⟩ := (derives_plain_append_iff plain).1 (derives_of_accepts accepted)
    rw [accepts_append, accepts_star_iff] at accepted
    exact ⟨List.prefix_append _ _, fun rest same => accepted rest (List.append_cancel_left same)⟩
  · rintro ⟨⟨behind, rfl⟩, nothingMore⟩
    rw [accepts_append, accepts_star_iff]
    intro rest same
    exact nothingMore rest (congrArg (front ++ ·) same)

end NodeGate.Pattern
