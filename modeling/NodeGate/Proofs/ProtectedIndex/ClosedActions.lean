import NodeGate.Proofs.Pattern.Language
import NodeGate.Proofs.ProtectedIndex.Decision

/-!
# Which actions are closed to the index

The patterns of denied actions are one name and some beginnings of names with a star behind each.
An action that begins so is denied, whatever follows, unless the beginning is followed by a star
and by more: then the star of the action stands opposite that of the pattern, is taken literally,
and nothing is left to stand for the rest. `denies_closed_iff_not_starred` says that this is the
only way past the patterns.
-/

namespace NodeGate

namespace ProtectedIndex

/-- What the names of actions that change an index begin with. -/
def changingFronts : List String :=
  ["indices:data/write", "indices:admin/delete", "indices:admin/mapping/delete",
    "indices:admin/mapping/put", "indices:admin/freeze", "indices:admin/settings/update"]

/-- What the names of actions begin with that lose an index where it cannot be restored. -/
def losingFronts : List String :=
  ["indices:admin/close", "cluster:admin/snapshot/restore"]

/-- The beginnings that settings close. -/
def closedFronts (settings : ProtectedIndexSettings) : List String :=
  changingFronts ++ if settings.restoreEnabled then [] else losingFronts

variable {settings : ProtectedIndexSettings} {action : String}

/-- An action that settings close to the index, by the text of its name alone. -/
inductive Closed (settings : ProtectedIndexSettings) (action : String) : Prop where
  | aliases (same : action = "indices:admin/aliases")
  | begins {front : String} (listed : front ∈ closedFronts settings)
      (begins : front.toList <+: action.toList)

/-- An action whose name goes on with a star and more behind a closed beginning. -/
def Starred (settings : ProtectedIndexSettings) (action : String) : Prop :=
  ∃ front ∈ closedFronts settings, ∃ rest, rest ≠ [] ∧ action.toList = front.toList ++ '*' :: rest

/-- Every closed beginning is one of those that can be closed. -/
theorem mem_fronts_of_closed {front : String} (listed : front ∈ closedFronts settings) :
    front ∈ changingFronts ++ losingFronts := by
  rcases List.mem_append.1 listed with changing | losing
  · exact List.mem_append_left _ changing
  · split at losing
    · cases losing
    · exact List.mem_append_right _ losing

/-- The beginnings are plain texts. -/
theorem plain_front {front : String} (listed : front ∈ closedFronts settings) :
    Pattern.Plain front.toList := by
  have literal : (changingFronts ++ losingFronts).all (fun front => (Pattern.mk front).isLiteral) =
      true := by decide
  exact Pattern.isLiteral_iff.1 (List.all_eq_true.1 literal front (mem_fronts_of_closed listed))

/-- A name has one of the beginnings at most. -/
theorem front_unique {first second : String} (firstListed : first ∈ closedFronts settings)
    (secondListed : second ∈ closedFronts settings) (firstBegins : first.toList <+: action.toList)
    (secondBegins : second.toList <+: action.toList) : first = second := by
  have apart : ∀ first ∈ changingFronts ++ losingFronts,
      ∀ second ∈ changingFronts ++ losingFronts,
        first.toList <+: second.toList → first = second := by decide
  have inFirst := mem_fronts_of_closed firstListed
  have inSecond := mem_fronts_of_closed secondListed
  rcases List.prefix_or_prefix_of_prefix firstBegins secondBegins with shorter | longer
  · exact apart first inFirst second inSecond shorter
  · exact (apart second inSecond first inFirst longer).symm

/-- A starred action has a closed beginning. -/
theorem Starred.closed (starred : Starred settings action) : Closed settings action := by
  obtain ⟨front, listed, rest, _, spelled⟩ := starred
  exact .begins listed ⟨'*' :: rest, spelled.symm⟩

/-- The action on aliases is not starred. -/
theorem not_starred_aliases : ¬ Starred settings "indices:admin/aliases" := by
  rintro ⟨front, _, rest, _, spelled⟩
  have member : '*' ∈ "indices:admin/aliases".toList := by simp [spelled]
  exact absurd member (by decide)

/-- The patterns are the name of the action on aliases and the closed beginnings, each with a star
behind it. -/
theorem mem_denied_iff {pattern : Pattern} :
    pattern ∈ (ofSettings settings).denied ↔
      pattern = ⟨"indices:admin/aliases"⟩ ∨
        ∃ front ∈ closedFronts settings, pattern = ⟨front ++ "*"⟩ := by
  have changing : changingActions =
      changingFronts.map (fun front => ⟨front ++ "*"⟩) ++ [⟨"indices:admin/aliases"⟩] := by decide
  have losing : losingActions = losingFronts.map fun front => ⟨front ++ "*"⟩ := by decide
  cases restores : settings.restoreEnabled with
  | true =>
    simp only [ofSettings, closedFronts, restores, if_true, List.append_nil, changing,
      List.mem_append, List.mem_singleton, List.mem_map, eq_comm (a := pattern)]
    exact or_comm
  | false =>
    simp only [ofSettings, closedFronts, restores, Bool.false_eq_true, if_false, changing, losing,
      List.mem_append, List.mem_singleton, List.mem_map, or_and_right, exists_or,
      eq_comm (a := pattern)]
    rw [or_right_comm, or_comm]

/-- The pattern of a beginning matches the actions that begin so, unless a star and more follow. -/
theorem isMatch_front_iff {front : String} (plain : Pattern.Plain front.toList) :
    (Pattern.mk (front ++ "*")).isMatch action = true ↔
      front.toList <+: action.toList ∧
        ∀ rest, action.toList = front.toList ++ '*' :: rest → rest = [] := by
  have spelled : (front ++ "*").toList = front.toList ++ ['*'] := by simp
  rw [Pattern.isMatch_eq_accepts, spelled]
  exact Pattern.accepts_plain_star_iff plain

/-- The name of the action on aliases matches itself alone. -/
theorem isMatch_aliases_iff :
    (Pattern.mk "indices:admin/aliases").isMatch action = true ↔
      action = "indices:admin/aliases" := by
  have literal : (Pattern.mk "indices:admin/aliases").isLiteral = true := by decide
  rw [Pattern.isMatch, if_pos literal, beq_iff_eq]
  exact eq_comm

/-- The denied actions are the closed ones that are not starred. -/
theorem isDeniedAction_iff :
    (ofSettings settings).isDeniedAction action = true ↔
      Closed settings action ∧ ¬ Starred settings action := by
  rw [isDeniedAction, Pattern.anyMatch, List.any_eq_true]
  constructor
  · rintro ⟨pattern, member, matched⟩
    rcases mem_denied_iff.1 member with rfl | ⟨front, listed, rfl⟩
    · cases isMatch_aliases_iff.1 matched
      exact ⟨.aliases rfl, not_starred_aliases⟩
    · obtain ⟨begins, nothingMore⟩ := (isMatch_front_iff (plain_front listed)).1 matched
      refine ⟨.begins listed begins, ?_⟩
      rintro ⟨other, otherListed, rest, nonempty, spelled⟩
      cases front_unique listed otherListed begins ⟨'*' :: rest, spelled.symm⟩
      exact nonempty (nothingMore rest spelled)
  · rintro ⟨closed, notStarred⟩
    cases closed with
    | aliases same => exact ⟨_, mem_denied_iff.2 (.inl rfl), isMatch_aliases_iff.2 same⟩
    | @begins front listed begins =>
      refine ⟨_, mem_denied_iff.2 (.inr ⟨front, listed, rfl⟩), ?_⟩
      rw [isMatch_front_iff (plain_front listed)]
      refine ⟨begins, fun rest spelled => ?_⟩
      cases rest with
      | nil => rfl
      | cons char more =>
        exact absurd ⟨front, listed, char :: more, List.cons_ne_nil _ _, spelled⟩ notStarred

/-- The patterns deny a closed action exactly if it is not starred. So, where nothing is filtered, a
closed action is kept from the index exactly if it is not starred; a starred one gets there like any
other action. -/
theorem denies_closed_iff_not_starred (settings : ProtectedIndexSettings) (action : String) :
    (((ofSettings settings).isDeniedAction action = true ↔ Closed settings action) ↔
        ¬ Starred settings action) ∧
      ((ofSettings settings).isDeniedAction action = true ↔
        Closed settings action ∧ ¬ Starred settings action) ∧
      (settings.filterMode = false → ∀ request resolved, resolved.Reaches settings.name →
        (Closed settings action → ¬ Starred settings action →
          (ofSettings settings).decide action request resolved = (.deny, request)) ∧
        (Starred settings action →
          (ofSettings settings).decide action request resolved =
            (.allow, request.withoutCacheAndRealtime))) := by
  refine ⟨?_, isDeniedAction_iff, fun strict request resolved reaches => ?_⟩
  · rw [isDeniedAction_iff]
    constructor
    · intro met starred
      exact (met.2 starred.closed).2 starred
    · intro notStarred
      exact and_iff_left notStarred
  · have decided := (ofSettings settings).decide_decided action request resolved
    constructor
    · intro closed notStarred
      exact decided.eq_deny strict reaches (isDeniedAction_iff.2 ⟨closed, notStarred⟩)
    · intro starred
      have harmless : (ofSettings settings).isDeniedAction action = false := by
        rw [Bool.eq_false_iff, ne_eq, isDeniedAction_iff]
        exact fun denied => denied.2 starred
      exact decided.eq_allow reaches harmless

/-- Writing to the index is denied under the settings that hold by default. -/
theorem denies_closed_iff_not_starred_write :
    let settings : ProtectedIndexSettings := {}
    let request : IndicesRequest := { targets := [".sg-config"] }
    let resolved : ResolvedIndices := .ofList [".sg-config", "logs"]
    settings.filterMode = false ∧ resolved.Reaches settings.name ∧
      Closed settings "indices:data/write[?" ∧ ¬ Starred settings "indices:data/write[?" ∧
      (ofSettings settings).decide "indices:data/write[?" request resolved = (.deny, request) := by
  intro settings request resolved
  have reaches : resolved.Reaches settings.name := .listed (by decide)
  have closed : Closed settings "indices:data/write[?" :=
    @Closed.begins _ _ "indices:data/write" (by decide) (by decide)
  have notStarred : ¬ Starred settings "indices:data/write[?" := by
    rintro ⟨front, _, rest, _, spelled⟩
    have member : '*' ∈ "indices:data/write[?".toList := by simp [spelled]
    exact absurd member (by decide)
  have law := denies_closed_iff_not_starred settings "indices:data/write[?"
  exact ⟨rfl, reaches, closed, notStarred,
    (law.2.2 rfl request resolved reaches).1 closed notStarred⟩

/-- A star behind the name of a write opens the index to it. -/
theorem starred_write_allowed :
    let settings : ProtectedIndexSettings := {}
    let request : IndicesRequest := { targets := [".sg-config"] }
    Closed settings "indices:data/write*/index" ∧
      (ofSettings settings).isDeniedAction "indices:data/write*/index" = false ∧
      (ofSettings settings).decide "indices:data/write*/index" request (.ofList [".sg-config"]) =
        (.allow,
          { targets := [".sg-config"], requestCache := some false, realtime := some false }) := by
  refine ⟨@Closed.begins _ _ "indices:data/write" (by decide) (by decide), ?_, ?_⟩
  · decide
  · decide

end ProtectedIndex

end NodeGate
