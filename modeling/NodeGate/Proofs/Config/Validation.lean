import NodeGate.Proofs.Books.Balance
import NodeGate.Proofs.Config.Rules
import NodeGate.Proofs.DistinguishedName.Components

/-!
# Validation is complete

Whatever the settings, their problems are a report of the rules that they violate
(`problems_reportsViolations`): one problem for each, in the order of the rules, and none where no
rule is violated. Each check of a section is shown to be its rule, the items of a list one after
the other; the sections are put together at the end, and the field of a problem tells which of
them it is from.
-/

namespace NodeGate

namespace Rule

variable {left right : Rule}

/-- Rules of an earlier section come first. -/
theorem rank_lt_of_part (earlier : left.part.number < right.part.number) :
    left.rank < right.rank :=
  List.cons_lt_cons_iff.2 (.inl earlier)

/-- Rules of one section come in the order of their places. -/
theorem rank_lt_of_place (same : left.part = right.part) (earlier : left.place < right.place) :
    left.rank < right.rank :=
  List.cons_lt_cons_iff.2 (.inr ⟨congrArg SettingsPart.number same, earlier⟩)

end Rule

/-- A text is all blank exactly when it says nothing. -/
theorem Text.isAllBlank_iff {text : String} : isAllBlank text = true ↔ SaysNothing text := by
  rw [isAllBlank, List.all_eq_true]
  constructor
  · intro blank
    have nothing : trim ([] ++ text.toList) = trim [] := trim_append_blanks blank
    rwa [List.nil_append] at nothing
  · intro nothing
    obtain ⟨front, back, frontBlank, backBlank, parts⟩ := exists_eq_append_trim text.toList
    rw [SaysNothing] at nothing
    rw [parts, nothing, List.nil_append]
    exact fun char member => (List.mem_append.1 member).elim (frontBlank char) (backBlank char)

/-- Pieces that are joined are split again, unless a piece holds the separator. -/
theorem Text.split_join {separator : Char} {pieces : List (List Char)} (some : pieces ≠ [])
    (whole : ∀ piece ∈ pieces, separator ∉ piece) :
    split separator (join separator pieces) = pieces := by
  induction pieces with
  | nil => exact absurd rfl some
  | cons piece rest inductionHypothesis =>
      obtain ⟨first, others⟩ := List.forall_mem_cons.1 whole
      cases rest with
      | nil => exact split_of_not_mem first
      | cons next more =>
          rw [join, split_append, split_of_not_mem first,
            inductionHypothesis (List.cons_ne_nil next more) others]
          rfl

namespace ProtectedIndexSettings

/-- A name is concrete unless it may mean several indices. -/
theorem isConcrete_iff {name : String} : isConcrete name = true ↔ ¬ MeansSeveral name := by
  have excludes : name.toList.head? = some '-' ↔ ['-'] <+: name.toList := by
    cases name.toList <;> simp [eq_comm]
  simp only [isConcrete, MeansSeveral, ← excludes, Bool.and_eq_true, Bool.not_eq_true',
    List.any_eq_false, Bool.or_eq_true, decide_eq_true_eq, ne_eq]
  constructor
  · rintro ⟨unsigned, including⟩ (star | mark | comma | excluding)
    · exact unsigned _ star (.inl (.inl rfl))
    · exact unsigned _ mark (.inl (.inr rfl))
    · exact unsigned _ comma (.inr rfl)
    · exact including excluding
  · intro one
    refine ⟨fun char member signed => one ?_, fun excluding => one (.inr (.inr (.inr excluding)))⟩
    obtain (rfl | rfl) | rfl := signed
    · exact .inl member
    · exact .inr (.inl member)
    · exact .inr (.inr (.inl member))

/-- A name that may mean several indices says something. -/
theorem not_saysNothing_of_meansSeveral {name : String} (several : MeansSeveral name) :
    ¬ SaysNothing name := by
  rw [← Text.isAllBlank_iff, Text.isAllBlank, List.all_eq_true]
  intro blank
  obtain star | mark | comma | ⟨rest, begins⟩ := several
  · exact absurd (blank _ star) (by decide)
  · exact absurd (blank _ mark) (by decide)
  · exact absurd (blank _ comma) (by decide)
  · exact absurd (blank '-' (begins ▸ List.mem_cons_self)) (by decide)

end ProtectedIndexSettings

/-- A text is an object identifier exactly when it is dotted numbers. -/
theorem TransportSettings.isOid_iff {text : String} :
    isOid text = true ↔ DottedNumbers text := by
  have isNumber (piece : List Char) : (!piece.isEmpty && piece.all Char.isDigit) = true ↔
      piece ≠ [] ∧ ∀ digit ∈ piece, '0' ≤ digit ∧ digit ≤ '9' := by
    simp [Char.isDigit, Char.le_def]
  simp only [isOid, List.all_eq_true, isNumber]
  constructor
  · exact fun numbers => ⟨Text.split '.' text.toList, Text.split_ne_nil _ _, numbers,
      (Text.join_split '.' text.toList).symm⟩
  · rintro ⟨numbers, some, digits, written⟩
    have whole : ∀ number ∈ numbers, '.' ∉ number := fun number member point =>
      absurd ((digits number member).2 '.' point) (by decide)
    rwa [written, Text.split_join some whole]

namespace Reports

/-- The check that a text says something. -/
theorem ofBlank (field text : String) (rule : Rule) :
    Reports (Problem.ofBlank field text) fun violated reported =>
      SaysNothing text ∧ violated = rule ∧ reported = ⟨field, "must not be empty"⟩ := by
  apply (ite _ (single rule _) nil).congr
  intro violated reported
  rw [Text.isAllBlank_iff, and_false, or_false]
  rfl

end Reports

/-- The problems of the cluster are its violated rules. -/
theorem ClusterSettings.reports (settings : ClusterSettings) :
    Reports settings.problems settings.Violates := by
  apply (Reports.ofBlank _ _ .clusterName).congr
  intro rule problem
  constructor
  · rintro ⟨blank, rfl, rfl⟩
    exact .blankName blank
  · rintro ⟨blank⟩
    exact ⟨blank, rfl, rfl⟩

/-- The problems of the protected index are its violated rules. -/
theorem ProtectedIndexSettings.reports (settings : ProtectedIndexSettings) :
    Reports settings.problems settings.Violates := by
  apply (Reports.ite _ (.single .indexName _) (.ite _ .nil (.single .indexName _))).congr
  intro rule problem
  simp only [Text.isAllBlank_iff, isConcrete_iff, and_false, false_or, not_not]
  constructor
  · rintro (⟨blank, rfl, rfl⟩ | ⟨-, several, rfl, rfl⟩)
    · exact .blankName blank
    · exact .severalIndices several
  · rintro (blank | several)
    · exact .inl ⟨blank, rfl, rfl⟩
    -- the second check is made where the first passes, and a sign is no blank
    · exact .inr ⟨not_saysNothing_of_meansSeveral several, several, rfl, rfl⟩

namespace TransportSettings

/-- The problems of node patterns are those of the patterns that say nothing. -/
theorem reports_nodesDn (patterns : List String) :
    Reports (patterns.zipIdx.flatMap fun (dn, position) =>
        Problem.ofBlank (Problem.itemField "transport.nodes_dn" position) dn)
      fun rule problem => ∃ before pattern after, patterns = before ++ pattern :: after ∧
        SaysNothing pattern ∧ rule = .nodePattern before.length ∧
          problem =
            ⟨Problem.itemField "transport.nodes_dn" before.length, "must not be empty"⟩ := by
  refine Reports.ofItems (fun patterns => patterns.zipIdx.flatMap _)
    (fun before dn => Problem.ofBlank (Problem.itemField "transport.nodes_dn" before.length) dn)
    rfl ?further (fun _ _ => Reports.ofBlank _ _ _) ?rising patterns
  case further =>
    intro before pattern
    simp [List.zipIdx_append]
  case rising =>
    rintro before _ rule problem later _ other following earlier ⟨-, rfl, -⟩ ⟨-, rfl, -⟩
    exact Rule.rank_lt_of_place rfl (by simpa [Rule.place, List.cons_lt_cons_iff] using earlier)

/-- The problem of the marker is that it is not dotted numbers. -/
theorem reports_certificateOid (certificateOid : Option String) :
    Reports (match certificateOid with
        | some oid =>
          if isOid oid then []
          else [⟨"transport.certificate_oid", "'" ++ oid ++ "' is not a dotted numeric OID"⟩]
        | none => [])
      fun rule problem => ∃ oid, certificateOid = some oid ∧ ¬ DottedNumbers oid ∧
        rule = .certificateOid ∧
          problem =
            ⟨"transport.certificate_oid", "'" ++ oid ++ "' is not a dotted numeric OID"⟩ := by
  cases certificateOid with
  | none => exact Reports.nil.congr fun rule problem => by simp
  | some oid =>
      refine (Reports.ite _ .nil (.single .certificateOid _)).congr fun rule problem => ?_
      simp [isOid_iff]

/-- The problems of the transport are its violated rules. -/
theorem reports (settings : TransportSettings) : Reports settings.problems settings.Violates := by
  refine ((reports_nodesDn settings.nodesDn).append
    (reports_certificateOid settings.certificateOid) ?_).congr fun rule problem => ?_
  · rintro rule problem next following ⟨before, -, -, -, -, rfl, -⟩ ⟨-, -, -, rfl, -⟩
    exact Rule.rank_lt_of_place rfl (by simp [Rule.place, List.cons_lt_cons_iff])
  · constructor
    · rintro (⟨before, pattern, after, listed, blank, rfl, rfl⟩ | ⟨oid, given, undotted, rfl, rfl⟩)
      · exact .blankPattern listed blank
      · exact .undottedOid given undotted
    · rintro (⟨listed, blank⟩ | ⟨given, undotted⟩)
      · exact .inl ⟨_, _, _, listed, blank, rfl, rfl⟩
      · exact .inr ⟨_, given, undotted, rfl, rfl⟩

end TransportSettings

/-- The problems of a principal after others are the rules that it violates there. -/
theorem PrincipalSettings.reports (before : List PrincipalSettings)
    (principal : PrincipalSettings) :
    Reports (principal.problems before.length (before.map (·.dn)).reverse)
      (principal.Violates before) := by
  refine ((Reports.ite _ (.single (.principalName before.length) _)
    (.ite _ (.single (.principalName before.length) _) .nil)).append
    (Reports.ofBlank _ _ (.principalUser before.length)) ?_).congr fun rule problem => ?_
  · rintro rule problem next following (⟨-, rfl, -⟩ | ⟨-, (⟨-, rfl, -⟩ | ⟨-, ⟨⟩⟩)⟩) ⟨-, rfl, -⟩ <;>
      exact Rule.rank_lt_of_place rfl (by simp [Rule.place, List.cons_lt_cons_iff])
  · have taken : principal.dn ∈ (before.map (·.dn)).reverse ↔
        ∃ other ∈ before, other.dn = principal.dn := by
      rw [List.mem_reverse, List.mem_map]
    simp only [Text.isAllBlank_iff, taken, and_false, or_false]
    constructor
    · rintro ((⟨blank, rfl, rfl⟩ | ⟨named, same, rfl, rfl⟩) | ⟨blank, rfl, rfl⟩)
      · exact .blankName blank
      · exact .sameName named same
      · exact .blankUser blank
    · rintro (blank | ⟨named, same⟩ | blank)
      · exact .inl (.inl ⟨blank, rfl, rfl⟩)
      · exact .inl (.inr ⟨named, same, rfl, rfl⟩)
      · exact .inr ⟨blank, rfl, rfl⟩

namespace AuthenticationSettings

/-- The last principal is checked after all others. -/
theorem problemsFrom_append (position : Nat) (earlier : List String)
    (before : List PrincipalSettings) (last : PrincipalSettings) :
    problemsFrom position earlier (before ++ [last]) = problemsFrom position earlier before ++
      last.problems (position + before.length) ((before.map (·.dn)).reverse ++ earlier) := by
  induction before generalizing position earlier with
  | nil => simp [problemsFrom]
  | cons principal rest inductionHypothesis =>
      rw [List.cons_append, problemsFrom, inductionHypothesis, problemsFrom, List.append_assoc,
        List.map_cons, List.reverse_cons, List.append_assoc, List.length_cons,
        Nat.add_right_comm, Nat.add_assoc]
      rfl

/-- The problems of authentication are its violated rules. -/
theorem reports (settings : AuthenticationSettings) :
    Reports settings.problems settings.Violates := by
  refine (Reports.ofItems (problemsFrom 0 []) _ rfl ?further PrincipalSettings.reports ?rising
    settings.principals).congr fun rule problem => ?_
  case further =>
    -- the names before a principal are passed to its check last first
    intro before principal
    rw [problemsFrom_append, Nat.zero_add, List.append_nil]
  case rising =>
    intro before principal rule problem later next other following earlier violates follows
    cases violates <;> cases follows <;>
      exact Rule.rank_lt_of_place rfl (List.cons_lt_cons_iff.2 (.inl earlier))
  · constructor
    · rintro ⟨before, principal, after, listed, violates⟩
      exact .principal listed violates
    · rintro ⟨listed, violates⟩
      exact ⟨_, _, _, listed, violates⟩

end AuthenticationSettings

/-- The problems of auditing are its violated rules. -/
theorem AuditSettings.reports (settings : AuditSettings) :
    Reports settings.problems settings.Violates := by
  have unknown (name : String) : (AuditCategory.ofName? name).isSome = true ↔
      ∃ category : AuditCategory, AuditCategory.sameLetters category.name name = true := by
    simp only [Option.isSome_iff_exists, AuditCategory.ofName?_eq_some_iff]
  refine (Reports.ofItems (fun names => names.flatMap _)
    (fun _ name => if (AuditCategory.ofName? name).isSome then []
      else [⟨"audit.disabled_categories", AuditCategory.unknownMessage name⟩])
    rfl ?further (fun before _ => .ite _ .nil (.single (.auditCategory before.length) _)) ?rising
    settings.disabledCategories).congr fun rule problem => ?_
  case further =>
    intro before name
    rw [List.flatMap_append, List.flatMap_singleton]
  case rising =>
    rintro before _ rule problem later _ other following earlier
      (⟨-, ⟨⟩⟩ | ⟨-, rfl, -⟩) (⟨-, ⟨⟩⟩ | ⟨-, rfl, -⟩)
    exact Rule.rank_lt_of_place rfl (List.cons_lt_cons_iff.2 (.inl earlier))
  · simp only [unknown, and_false, false_or, not_exists]
    constructor
    · rintro ⟨before, name, after, listed, unknown, rfl, rfl⟩
      exact .unknownCategory listed unknown
    · rintro ⟨listed, unknown⟩
      exact ⟨_, _, _, listed, unknown, rfl, rfl⟩

/-- The problem of observability is its violated rule. -/
theorem ObservabilitySettings.reports (settings : ObservabilitySettings) :
    Reports settings.problems settings.Violates := by
  refine (Reports.ite _ (.single .metricsAddress _) .nil).congr fun rule problem => ?_
  rw [and_false, or_false]
  constructor
  · rintro ⟨⟨wanted, unreadable⟩, rfl, rfl⟩
    exact .noAddress wanted unreadable
  · rintro ⟨wanted, unreadable⟩
    exact ⟨⟨wanted, unreadable⟩, rfl, rfl⟩

/-- Every section is listed. -/
theorem SettingsPart.mem_all (part : SettingsPart) : part ∈ all := by
  cases part <;> decide

namespace Settings

/-- The problems of one section. -/
def problemsIn (settings : Settings) : SettingsPart → List Problem
  | .cluster => settings.cluster.problems
  | .protectedIndex => settings.protectedIndex.problems
  | .transport => settings.transport.problems
  | .authentication => settings.authentication.problems
  | .audit => settings.audit.problems
  | .observability => settings.observability.problems

/-- The problems of a section depend on that section alone. -/
theorem problemsIn_congr {settings other : Settings} {part : SettingsPart}
    (agree : settings.AgreeOn other part) : settings.problemsIn part = other.problemsIn part := by
  cases part with
  | cluster => exact congrArg ClusterSettings.problems agree
  | protectedIndex => exact congrArg ProtectedIndexSettings.problems agree
  | transport => exact congrArg TransportSettings.problems agree
  | authentication => exact congrArg AuthenticationSettings.problems agree
  | audit => exact congrArg AuditSettings.problems agree
  | observability => exact congrArg ObservabilitySettings.problems agree

/-- The problems are those of the sections, one after the other. -/
theorem problems_eq_flatMap (settings : Settings) :
    settings.problems = SettingsPart.all.flatMap settings.problemsIn := by
  simp [problems, SettingsPart.all, problemsIn]

/-- The problems of a section are the rules that it violates. -/
theorem reportsIn (settings : Settings) (part : SettingsPart) :
    Reports (settings.problemsIn part) (settings.ViolatesIn part) := by
  cases part with
  | cluster => exact settings.cluster.reports
  | protectedIndex => exact settings.protectedIndex.reports
  | transport => exact settings.transport.reports
  | authentication => exact settings.authentication.reports
  | audit => exact settings.audit.reports
  | observability => exact settings.observability.reports

variable {settings : Settings} {part : SettingsPart} {rule : Rule} {problem : Problem}

/-- A section violates rules of its own. -/
theorem part_of_violatesIn (violates : settings.ViolatesIn part rule problem) :
    rule.part = part := by
  cases part with
  | authentication => obtain ⟨-, violates⟩ := violates; cases violates <;> rfl
  | _ => cases violates <;> rfl

/-- The field of a problem begins with the mark of its section. -/
theorem mark_of_violatesIn (violates : settings.ViolatesIn part rule problem) :
    part.mark.toList <+: problem.field.toList := by
  have behind {text : String} (begins : part.mark.toList <+: text.toList) (rest : String) :
      part.mark.toList <+: (text ++ rest).toList := by
    rw [String.toList_append]
    exact begins.trans (List.prefix_append _ _)
  have ofItem {field : String} (begins : part.mark.toList <+: field.toList) (position : Nat) :
      part.mark.toList <+: (Problem.itemField field position).toList :=
    behind (behind (behind begins _) _) _
  cases part with
  | transport =>
      cases violates with
      | blankPattern => exact ofItem (by decide) _
      | undottedOid =>
          dsimp only
          decide
  | authentication =>
      obtain ⟨-, violates⟩ := violates
      cases violates <;> exact behind (ofItem (by decide) _) _
  | _ =>
      cases violates <;> dsimp only <;> decide

/-- The marks of two sections are apart. -/
theorem eq_of_marks {left right : SettingsPart} {field : String}
    (ofLeft : left.mark.toList <+: field.toList) (ofRight : right.mark.toList <+: field.toList) :
    left = right := by
  have apart (first second : SettingsPart) (begins : first.mark.toList <+: second.mark.toList) :
      first = second := by
    cases first <;> cases second <;> first | rfl | exact absurd begins (by decide)
  exact (List.prefix_or_prefix_of_prefix ofLeft ofRight).elim (apart left right)
    fun begins => (apart right left begins).symm

/-- The reported problems with fields of a section are the problems of the section. -/
theorem problemsOn_eq (settings : Settings) (part : SettingsPart) :
    settings.problemsOn part = settings.problemsIn part := by
  have marked (other : SettingsPart) : ∀ problem ∈ settings.problemsIn other,
      other.mark.toList <+: problem.field.toList := by
    obtain ⟨violations, -, listed, reported⟩ := settings.reportsIn other
    intro problem member
    rw [reported, List.mem_map] at member
    obtain ⟨violation, violated, rfl⟩ := member
    exact mark_of_violatesIn ((listed _ _).1 violated)
  have taken (other : SettingsPart) : (settings.problemsIn other).filter
      (fun problem => part.mark.toList <+: problem.field.toList) =
        if other = part then settings.problemsIn part else [] := by
    by_cases same : other = part
    · subst same
      rw [if_pos rfl, List.filter_eq_self]
      exact fun problem member => decide_eq_true (marked other problem member)
    · rw [if_neg same, List.filter_eq_nil_iff]
      exact fun problem member begins =>
        same (eq_of_marks (marked other problem member) (of_decide_eq_true begins))
  rw [problemsOn, problems_eq_flatMap, List.filter_flatMap]
  simp only [taken, SettingsPart.all]
  cases part <;> simp

/-- The problems of some sections, in order, are the rules that these violate. -/
theorem reports_flatMap (settings : Settings) {parts : List SettingsPart}
    (rising : parts.Pairwise fun left right => left.number < right.number) :
    Reports (parts.flatMap settings.problemsIn) fun rule problem =>
      rule.part ∈ parts ∧ settings.Violates rule problem := by
  induction parts with
  | nil => exact Reports.nil.congr fun rule problem => by simp
  | cons part rest inductionHypothesis =>
      obtain ⟨first, others⟩ := List.pairwise_cons.1 rising
      refine ((settings.reportsIn part).append (inductionHypothesis others) ?_).congr
        fun rule problem => ?_
      · rintro rule problem next following violates ⟨later, -⟩
        refine Rule.rank_lt_of_part ?_
        rw [part_of_violatesIn violates]
        exact first _ later
      · rw [List.mem_cons, or_and_right]
        refine or_congr_left ⟨fun violates => ?_, ?_⟩
        · obtain rfl := part_of_violatesIn violates
          exact ⟨rfl, violates⟩
        · rintro ⟨rfl, violates⟩
          exact violates

/-- Settings are valid exactly if they violate no rule; otherwise there is one problem for every
violated rule, in the order of the rules. The problems of a section depend on that section alone. -/
theorem problems_reportsViolations (settings : Settings) :
    (settings.isValid = true ↔ ∀ rule problem, ¬ settings.Violates rule problem) ∧
      Reports settings.problems settings.Violates ∧
      ∀ part other, settings.AgreeOn other part →
        settings.problemsOn part = other.problemsOn part := by
  have reported : Reports settings.problems settings.Violates := by
    rw [problems_eq_flatMap]
    refine (settings.reports_flatMap (by decide)).congr fun rule problem => and_iff_right ?_
    exact SettingsPart.mem_all rule.part
  refine ⟨?_, reported, fun part other agree => ?_⟩
  · rw [isValid, List.isEmpty_iff]
    exact reported.eq_nil_iff
  · rw [problemsOn_eq, problemsOn_eq]
    exact problemsIn_congr agree

end Settings

end NodeGate
