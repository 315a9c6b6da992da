import Mathlib.Data.List.Induction
import NodeGate.Config.Validation

/-!
# The rules of settings

Each section has rules of its own, some of them for every item of a list. `Settings.Violates` says
outright when a rule is violated and what problem that is, without going through the settings in
any order; the order in which rules are reported is that of their ranks. `Reports` ties a list of
problems to the violated rules: each is reported once, in rising order, and nothing else is.
-/

namespace NodeGate

/-- The sections, in the order in which their problems are reported. -/
inductive SettingsPart where
  | cluster
  | protectedIndex
  | transport
  | authentication
  | audit
  | observability
  deriving DecidableEq

namespace SettingsPart

/-- Every section, in order. -/
def all : List SettingsPart :=
  [.cluster, .protectedIndex, .transport, .authentication, .audit, .observability]

/-- The place of a section in the order. -/
def number : SettingsPart → Nat
  | .cluster => 0
  | .protectedIndex => 1
  | .transport => 2
  | .authentication => 3
  | .audit => 4
  | .observability => 5

/-- What the fields of a section begin with. -/
def mark : SettingsPart → String
  | .cluster => "cluster."
  | .protectedIndex => "protected_index."
  | .transport => "transport."
  | .authentication => "authentication."
  | .audit => "audit."
  | .observability => "observability."

end SettingsPart

/-- A rule, with the position of the item that it is for where there is one for every item. -/
inductive Rule where
  | clusterName
  | indexName
  | nodePattern (position : Nat)
  | certificateOid
  | principalName (position : Nat)
  | principalUser (position : Nat)
  | auditCategory (position : Nat)
  | metricsAddress
  deriving DecidableEq

namespace Rule

/-- The section that a rule is about. -/
def part : Rule → SettingsPart
  | .clusterName => .cluster
  | .indexName => .protectedIndex
  | .nodePattern _ | .certificateOid => .transport
  | .principalName _ | .principalUser _ => .authentication
  | .auditCategory _ => .audit
  | .metricsAddress => .observability

/-- The place of a rule in its section: by rising position, the name of a principal before its
user and the patterns of nodes before the marker. -/
def place : Rule → List Nat
  | .clusterName | .indexName | .metricsAddress => []
  | .nodePattern position => [0, position]
  | .certificateOid => [1]
  | .principalName position => [position, 0]
  | .principalUser position => [position, 1]
  | .auditCategory position => [position]

/-- Rules are reported in the lexicographic order of their ranks. -/
def rank (rule : Rule) : List Nat :=
  rule.part.number :: rule.place

end Rule

/-- A text of which trimming leaves nothing. -/
def SaysNothing (text : String) : Prop :=
  Text.trim text.toList = []

/-- The cluster has to have a name. -/
inductive ClusterSettings.Violates (settings : ClusterSettings) : Rule → Problem → Prop where
  | blankName (blank : SaysNothing settings.name) :
      settings.Violates .clusterName ⟨"cluster.name", "must not be empty"⟩

/-- A name that may mean several indices: it holds a pattern sign or a comma, or excludes. -/
def ProtectedIndexSettings.MeansSeveral (name : String) : Prop :=
  '*' ∈ name.toList ∨ '?' ∈ name.toList ∨ ',' ∈ name.toList ∨ ['-'] <+: name.toList

/-- The protected index has to have a name, and one that means one index. -/
inductive ProtectedIndexSettings.Violates (settings : ProtectedIndexSettings) :
    Rule → Problem → Prop where
  | blankName (blank : SaysNothing settings.name) :
      settings.Violates .indexName ⟨"protected_index.name", "must not be empty"⟩
  | severalIndices (several : MeansSeveral settings.name) :
      settings.Violates .indexName
        ⟨"protected_index.name", "'" ++ settings.name ++ "' must be a concrete index name"⟩

/-- A text of one or more decimal numbers with points between them. -/
def TransportSettings.DottedNumbers (text : String) : Prop :=
  ∃ numbers : List (List Char), numbers ≠ [] ∧
    (∀ number ∈ numbers, number ≠ [] ∧ ∀ digit ∈ number, '0' ≤ digit ∧ digit ≤ '9') ∧
    text.toList = Text.join '.' numbers

/-- Every pattern of a node has to say something, and the marker has to be dotted numbers. -/
inductive TransportSettings.Violates (settings : TransportSettings) : Rule → Problem → Prop where
  | blankPattern {before after : List String} {pattern : String}
      (listed : settings.nodesDn = before ++ pattern :: after) (blank : SaysNothing pattern) :
      settings.Violates (.nodePattern before.length)
        ⟨Problem.itemField "transport.nodes_dn" before.length, "must not be empty"⟩
  | undottedOid {oid : String} (given : settings.certificateOid = some oid)
      (undotted : ¬ DottedNumbers oid) :
      settings.Violates .certificateOid
        ⟨"transport.certificate_oid", "'" ++ oid ++ "' is not a dotted numeric OID"⟩

/-- A principal, after others, has to have a name that none of them has, and a user. -/
inductive PrincipalSettings.Violates (before : List PrincipalSettings)
    (principal : PrincipalSettings) : Rule → Problem → Prop where
  | blankName (blank : SaysNothing principal.dn) :
      principal.Violates before (.principalName before.length)
        ⟨Problem.itemField "authentication.principals" before.length ++ ".dn",
          "must not be empty"⟩
  | sameName (named : ¬ SaysNothing principal.dn)
      (taken : ∃ other ∈ before, other.dn = principal.dn) :
      principal.Violates before (.principalName before.length)
        ⟨Problem.itemField "authentication.principals" before.length ++ ".dn",
          "duplicate principal '" ++ principal.dn ++ "'"⟩
  | blankUser (blank : SaysNothing principal.user) :
      principal.Violates before (.principalUser before.length)
        ⟨Problem.itemField "authentication.principals" before.length ++ ".user",
          "must not be empty"⟩

/-- Every principal has its rules. -/
inductive AuthenticationSettings.Violates (settings : AuthenticationSettings) :
    Rule → Problem → Prop where
  | principal {before after : List PrincipalSettings} {principal : PrincipalSettings} {rule : Rule}
      {problem : Problem} (listed : settings.principals = before ++ principal :: after)
      (violates : principal.Violates before rule problem) : settings.Violates rule problem

/-- Every disabled category has to be one, in any letter case. -/
inductive AuditSettings.Violates (settings : AuditSettings) : Rule → Problem → Prop where
  | unknownCategory {before after : List String} {name : String}
      (listed : settings.disabledCategories = before ++ name :: after)
      (unknown : ∀ category : AuditCategory, ¬ AuditCategory.sameLetters category.name name) :
      settings.Violates (.auditCategory before.length)
        ⟨"audit.disabled_categories", "unknown audit category '" ++ name ++ "'"⟩

/-- Where metrics are wanted, their address has to be one. -/
inductive ObservabilitySettings.Violates (settings : ObservabilitySettings) :
    Rule → Problem → Prop where
  | noAddress (wanted : settings.metricsEnabled = true)
      (unreadable : Address.read settings.metricsAddress = none) :
      settings.Violates .metricsAddress
        ⟨"observability.metrics_address",
          "'" ++ settings.metricsAddress ++ "' is not a socket address"⟩

namespace Settings

/-- A section violates a rule of its own. -/
def ViolatesIn (settings : Settings) : SettingsPart → Rule → Problem → Prop
  | .cluster => settings.cluster.Violates
  | .protectedIndex => settings.protectedIndex.Violates
  | .transport => settings.transport.Violates
  | .authentication => settings.authentication.Violates
  | .audit => settings.audit.Violates
  | .observability => settings.observability.Violates

/-- Settings violate a rule where the section of the rule does. -/
def Violates (settings : Settings) (rule : Rule) (problem : Problem) : Prop :=
  settings.ViolatesIn rule.part rule problem

/-- Two settings have the same section. -/
def AgreeOn (settings other : Settings) : SettingsPart → Prop
  | .cluster => settings.cluster = other.cluster
  | .protectedIndex => settings.protectedIndex = other.protectedIndex
  | .transport => settings.transport = other.transport
  | .authentication => settings.authentication = other.authentication
  | .audit => settings.audit = other.audit
  | .observability => settings.observability = other.observability

/-- The reported problems with fields of a section. -/
def problemsOn (settings : Settings) (part : SettingsPart) : List Problem :=
  settings.problems.filter fun problem => part.mark.toList <+: problem.field.toList

end Settings

/-- Problems are those of the violated rules, one for each, by rising rank. -/
def Reports (problems : List Problem) (violates : Rule → Problem → Prop) : Prop :=
  ∃ violations : List (Rule × Problem),
    violations.Pairwise (fun left right => left.1.rank < right.1.rank) ∧
      (∀ rule problem, (rule, problem) ∈ violations ↔ violates rule problem) ∧
      problems = violations.map (·.2)

namespace Reports

variable {problems first second : List Problem} {violates other : Rule → Problem → Prop}

/-- A report is about which rules are violated, however that is said. -/
theorem congr (reports : Reports problems violates)
    (same : ∀ rule problem, violates rule problem ↔ other rule problem) :
    Reports problems other := by
  obtain ⟨violations, rising, listed, reported⟩ := reports
  exact ⟨violations, rising, fun rule problem => (listed rule problem).trans (same rule problem),
    reported⟩

/-- Nothing is reported exactly where no rule is violated. -/
theorem eq_nil_iff (reports : Reports problems violates) :
    problems = [] ↔ ∀ rule problem, ¬ violates rule problem := by
  obtain ⟨violations, -, listed, rfl⟩ := reports
  rw [List.map_eq_nil_iff, List.eq_nil_iff_forall_not_mem]
  exact ⟨fun none rule problem violated => none _ ((listed rule problem).2 violated),
    fun none violation member => none _ _ ((listed _ _).1 member)⟩

/-- The report where no rule is violated. -/
theorem nil : Reports [] fun _ _ => False :=
  ⟨[], List.Pairwise.nil, fun _ _ => List.mem_nil_iff _, rfl⟩

/-- One rule that is violated. -/
theorem single (rule : Rule) (problem : Problem) :
    Reports [problem] fun violated reported => violated = rule ∧ reported = problem := by
  refine ⟨[(rule, problem)], List.pairwise_singleton _ _, fun violated reported => ?_, rfl⟩
  rw [List.mem_singleton, Prod.mk.injEq]

/-- Reports of two cases. -/
theorem ite {later : Rule → Problem → Prop} (condition : Prop) [Decidable condition]
    (holds : Reports first violates) (fails : Reports second later) :
    Reports (if condition then first else second) fun rule problem =>
      condition ∧ violates rule problem ∨ ¬ condition ∧ later rule problem := by
  by_cases given : condition
  · rw [if_pos given]
    exact holds.congr fun rule problem => by
      simp only [given, true_and, not_true, false_and, or_false]
  · rw [if_neg given]
    exact fails.congr fun rule problem => by
      simp only [given, not_false_iff, true_and, false_and, false_or]

/-- Reports one after the other, where the rules of the first come first. -/
theorem append {later : Rule → Problem → Prop} (front : Reports first violates)
    (back : Reports second later)
    (before : ∀ rule problem next following, violates rule problem → later next following →
      rule.rank < next.rank) :
    Reports (first ++ second) fun rule problem => violates rule problem ∨ later rule problem := by
  obtain ⟨frontViolations, frontRising, frontListed, rfl⟩ := front
  obtain ⟨backViolations, backRising, backListed, rfl⟩ := back
  refine ⟨frontViolations ++ backViolations, ?_, fun rule problem => ?_, List.map_append.symm⟩
  · rw [List.pairwise_append]
    refine ⟨frontRising, backRising, fun left leftListed right rightListed => ?_⟩
    exact before left.1 left.2 right.1 right.2 ((frontListed _ _).1 leftListed)
      ((backListed _ _).1 rightListed)
  · rw [List.mem_append, frontListed, backListed]

/-- Reports of the items of a list one after the other, where rules of earlier items come first. An
item may be reported in view of the items before it. -/
theorem ofItems {Item : Type} (problemsOf : List Item → List Problem)
    (here : List Item → Item → List Problem)
    {violates : List Item → Item → Rule → Problem → Prop} (nothing : problemsOf [] = [])
    (further : ∀ before item, problemsOf (before ++ [item]) = problemsOf before ++ here before item)
    (each : ∀ before item, Reports (here before item) (violates before item))
    (rising : ∀ before item rule problem later next other following,
      before.length < later.length → violates before item rule problem →
        violates later next other following → rule.rank < other.rank)
    (items : List Item) :
    Reports (problemsOf items) fun rule problem => ∃ before item after,
      items = before ++ item :: after ∧ violates before item rule problem := by
  induction items using List.reverseRecOn with
  | nil =>
      rw [nothing]
      exact nil.congr fun _ _ => by simp
  | append_singleton items last inductionHypothesis =>
      rw [further]
      apply (inductionHypothesis.append (each items last) ?_).congr
      · intro rule problem
        constructor
        · rintro (⟨before, item, after, rfl, violated⟩ | violated)
          · exact ⟨before, item, after ++ [last], by simp, violated⟩
          · exact ⟨items, last, [], rfl, violated⟩
        · rintro ⟨before, item, after, whole, violated⟩
          cases after using List.reverseRecOn with
          | nil =>
              obtain ⟨rfl, same⟩ := List.append_inj' whole rfl
              cases List.singleton_inj.1 same
              exact .inr violated
          | append_singleton after final =>
              rw [← List.cons_append, ← List.append_assoc] at whole
              obtain ⟨rfl, -⟩ := List.append_inj' whole rfl
              exact .inl ⟨before, item, after, rfl, violated⟩
      · rintro rule problem next following ⟨before, item, after, rfl, violated⟩ later
        exact rising _ _ _ _ _ _ _ _ (by simp) violated later

end Reports

end NodeGate
