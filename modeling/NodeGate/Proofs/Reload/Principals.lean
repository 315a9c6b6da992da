import Mathlib.Data.List.Dedup
import Mathlib.Data.List.Nodup
import NodeGate.Config.Validation
import NodeGate.Proofs.NameMap
import NodeGate.Proofs.Reload.InForce

/-!
# When every mapping of a principal takes effect

Validation compares the names of principals as they are written, and the table keeps them in
normalised spelling. So in valid settings every mapping takes effect exactly if no principal is
mapped under two spellings (`honours_iff_oneSpelling`): of two spellings of one principal the later
mapping replaces the earlier one, and validation does not see it.
-/

namespace NodeGate

/-- A principal without problems has none of the names before it. -/
theorem PrincipalSettings.not_mem_of_problems {position : Nat} {earlier : List String}
    {settings : PrincipalSettings} (valid : settings.problems position earlier = []) :
    settings.dn ∉ earlier := by
  intro taken
  have named := (List.append_eq_nil_iff.1 valid).1
  rw [if_pos taken] at named
  split at named <;> cases named

namespace AuthenticationSettings

/-- Principals without problems have different names, and none of those before them. -/
theorem nodup_of_problemsFrom {position : Nat} {earlier : List String}
    {principals : List PrincipalSettings} (valid : problemsFrom position earlier principals = []) :
    (principals.map (·.dn)).Nodup ∧ ∀ principal ∈ principals, principal.dn ∉ earlier := by
  induction principals generalizing position earlier with
  | nil => simp
  | cons principal rest inductionHypothesis =>
    obtain ⟨here, behind⟩ := List.append_eq_nil_iff.1 valid
    obtain ⟨distinct, later⟩ := inductionHypothesis behind
    constructor
    · rw [List.map_cons, List.nodup_cons]
      refine ⟨fun again => ?_, distinct⟩
      obtain ⟨other, member, same⟩ := List.mem_map.1 again
      exact later other member (same ▸ List.mem_cons_self)
    · intro other member
      rcases List.mem_cons.1 member with rfl | member
      · exact PrincipalSettings.not_mem_of_problems here
      · exact fun taken => later other member (List.mem_cons_of_mem _ taken)

/-- No two principals of the settings are spellings of one name. -/
def OneSpelling (settings : AuthenticationSettings) : Prop :=
  ∀ first ∈ settings.principals, ∀ second ∈ settings.principals,
    DistinguishedName.normalize first.dn = DistinguishedName.normalize second.dn →
      first.dn = second.dn

/-- The names of the principals in normalised spelling. -/
def normalizedNames (settings : AuthenticationSettings) : List String :=
  settings.principals.map fun mapping => DistinguishedName.normalize mapping.dn

/-- Where names differ as they are written, they differ in normalised spelling exactly if none has
two spellings. -/
theorem nodup_normalizedNames_iff {settings : AuthenticationSettings}
    (distinct : (settings.principals.map (·.dn)).Nodup) :
    settings.normalizedNames.Nodup ↔ settings.OneSpelling := by
  constructor
  · intro apart first firstListed second secondListed same
    exact congrArg PrincipalSettings.dn
      (List.inj_on_of_nodup_map apart firstListed secondListed same)
  · intro oneSpelling
    apply List.Nodup.map_on _ distinct.of_map
    intro first firstListed second secondListed same
    exact List.inj_on_of_nodup_map distinct firstListed secondListed
      (oneSpelling first firstListed second secondListed same)

end AuthenticationSettings

/-- In valid settings the names of principals differ as they are written. -/
theorem Settings.nodup_names_of_problems {settings : Settings} (valid : settings.problems = []) :
    (settings.authentication.principals.map (·.dn)).Nodup := by
  simp only [problems, List.append_eq_nil_iff] at valid
  exact (AuthenticationSettings.nodup_of_problemsFrom valid.1.1.2).1

namespace PrincipalTable

variable {settings : AuthenticationSettings} {mapping : PrincipalSettings}

/-- Every mapping takes effect: there is an entry for each, and its principal is authenticated as
the user it names, with the roles it lists and nothing else. -/
structure Honours (table : PrincipalTable) (principals : List PrincipalSettings) : Prop where
  size_eq : table.size = principals.length
  known : ∀ mapping ∈ principals, ∃ identity, table.answer mapping.dn = .known identity ∧
    identity.name = mapping.user ∧
    (∀ role, role ∈ identity.backendRoles ↔ role ∈ mapping.backendRoles) ∧
    identity.attributes = NameMap.empty

/-- The names of the entries are the normalised names of the principals. -/
theorem map_entry_fst (settings : AuthenticationSettings) :
    (settings.principals.map entry).map (·.1) = settings.normalizedNames := by
  rw [List.map_map]
  rfl

/-- The table has one entry for each normalised name. -/
theorem size_ofSettings (settings : AuthenticationSettings) :
    (ofSettings settings).size = settings.normalizedNames.dedup.length := by
  have counted : (ofSettings settings).size = (ofSettings settings).identities.names.length :=
    (List.length_map _).symm
  have listed : (ofSettings settings).identities.names.Perm settings.normalizedNames.dedup := by
    apply (List.perm_ext_iff_of_nodup (NameMap.names_nodup _) (List.nodup_dedup _)).2
    intro name
    rw [List.mem_dedup, ← map_entry_fst]
    exact NameMap.mem_names_ofList
  rw [counted, listed.length_eq]

/-- The table has as many entries as there are mappings exactly if the normalised names differ. -/
theorem size_ofSettings_eq_length_iff :
    (ofSettings settings).size = settings.principals.length ↔ settings.normalizedNames.Nodup := by
  have counted : settings.principals.length = settings.normalizedNames.length :=
    (List.length_map _).symm
  rw [size_ofSettings, counted]
  constructor
  · intro same
    exact List.dedup_eq_self.1 ((List.dedup_sublist _).eq_of_length same)
  · intro distinct
    rw [distinct.dedup]

/-- What is looked up among the entries of mappings is what the first mapping of the name says. -/
theorem lookup_map_entry (name : String) (principals : List PrincipalSettings) :
    NameMap.lookup name (principals.map entry) =
      (principals.find? fun mapping => DistinguishedName.normalize mapping.dn = name).map
        fun mapping => (entry mapping).2 := by
  induction principals with
  | nil => rfl
  | cons mapping rest inductionHypothesis =>
    rw [List.map_cons, List.find?_cons]
    by_cases same : DistinguishedName.normalize mapping.dn = name
    · simp [entry, NameMap.lookup, same]
    · simpa [entry, NameMap.lookup, same, eq_comm (a := name)] using inductionHypothesis

/-- The last mapping of a principal, in whatever spelling, says who it is. -/
theorem answer_ofSettings (settings : AuthenticationSettings) (principal : String) :
    (ofSettings settings).answer principal =
      match settings.principals.reverse.find? fun mapping =>
        DistinguishedName.normalize mapping.dn = DistinguishedName.normalize principal with
      | some mapping => .known (entry mapping).2
      | none => .unknown := by
  rw [answer, identity?, ofSettings, NameMap.get?_ofList, ← List.map_reverse, lookup_map_entry]
  cases settings.principals.reverse.find? _ <;> rfl

/-- Where the normalised names differ, no two entries have one name. -/
theorem distinct_entries (distinct : settings.normalizedNames.Nodup) :
    (settings.principals.map entry).Pairwise fun left right => left.1 ≠ right.1 := by
  rw [← List.pairwise_map, map_entry_fst]
  exact distinct

/-- Where the normalised names differ, every mapping says who its principal is. -/
theorem answer_of_mem (distinct : settings.normalizedNames.Nodup)
    (listed : mapping ∈ settings.principals) :
    (ofSettings settings).answer mapping.dn = .known (entry mapping).2 := by
  have held : (ofSettings settings).identity? mapping.dn = some (entry mapping).2 :=
    (NameMap.get?_ofList_eq_some_iff (distinct_entries distinct)).2 (List.mem_map_of_mem listed)
  rw [answer, held]

/-- Every mapping takes effect exactly if the normalised names differ. -/
theorem honours_iff_nodup :
    (ofSettings settings).Honours settings.principals ↔ settings.normalizedNames.Nodup := by
  constructor
  · intro honours
    exact size_ofSettings_eq_length_iff.1 honours.size_eq
  · intro distinct
    refine ⟨size_ofSettings_eq_length_iff.2 distinct, fun mapping listed => ?_⟩
    refine ⟨(entry mapping).2, answer_of_mem distinct listed, rfl, fun role => ?_, rfl⟩
    have listed : role ∈ NameSet.ofList mapping.backendRoles ↔ role ∈ mapping.backendRoles :=
      NameSet.mem_ofList
    exact listed

/-- Where the normalised names differ, the order of the mappings does not matter. -/
theorem ofSettings_perm (distinct : settings.normalizedNames.Nodup)
    {reordered : List PrincipalSettings} (perm : reordered.Perm settings.principals) :
    ofSettings ⟨reordered⟩ = ofSettings settings :=
  congrArg PrincipalTable.mk
    (NameMap.ofList_eq_of_perm (distinct_entries distinct) (perm.map entry))

/-- A node asks the table of the settings that are in force. -/
theorem authenticate_run (complaints : HeaderValue.Complaints) (started : Settings)
    (events : List Node.Event)
    (inForce : (Node.inForce started events).authentication = settings) (request : Request)
    (principal action : String) :
    ((Node.start complaints started).run events).guard.policy.authenticate request principal
        action =
      (ofSettings settings).answer principal := by
  rw [(Node.run_sameRules complaints started events).policy, ← inForce]
  rfl

/-- In valid settings every mapping of a principal takes effect exactly if none is mapped under two
spellings, and then the order of the mappings does not matter. In any case the last mapping of a
principal says who it is, at every node with these settings in force, whether it was started with
them or took them over. -/
theorem honours_iff_oneSpelling (settings : Settings) (valid : settings.problems = []) :
    ((ofSettings settings.authentication).Honours settings.authentication.principals ↔
        settings.authentication.OneSpelling) ∧
      (settings.authentication.OneSpelling →
        ∀ reordered : List PrincipalSettings,
          reordered.Perm settings.authentication.principals →
            ofSettings ⟨reordered⟩ = ofSettings settings.authentication) ∧
      (∀ principal, (ofSettings settings.authentication).answer principal =
        match settings.authentication.principals.reverse.find? fun mapping =>
          DistinguishedName.normalize mapping.dn = DistinguishedName.normalize principal with
        | some mapping => .known (Identity.withBackendRoles ⟨mapping.user, .empty, .empty⟩
            mapping.backendRoles)
        | none => .unknown) ∧
      ∀ complaints started events,
        (Node.inForce started events).authentication = settings.authentication →
          ∀ request principal action,
            ((Node.start complaints started).run events).guard.policy.authenticate request
                principal action =
              (ofSettings settings.authentication).answer principal := by
  have apart := AuthenticationSettings.nodup_normalizedNames_iff
    (Settings.nodup_names_of_problems valid)
  refine ⟨honours_iff_nodup.trans apart, fun oneSpelling reordered perm => ?_,
    answer_ofSettings settings.authentication, authenticate_run⟩
  exact ofSettings_perm (apart.2 oneSpelling) perm

/-- Two principals, one of them with blanks in its name, are known as their mappings say. -/
theorem honours_iff_oneSpelling_two_principals :
    let settings : Settings :=
      { authentication := { principals :=
          [⟨"CN = kirk, OU=client", "kirk", ["admin", "captain"]⟩, ⟨"CN=spock", "spock", []⟩] } }
    settings.problems = [] ∧ settings.authentication.OneSpelling ∧
      (ofSettings settings.authentication).Honours settings.authentication.principals ∧
      (ofSettings settings.authentication).answer "CN=kirk,OU = client" =
        .known (Identity.withBackendRoles ⟨"kirk", .empty, .empty⟩ ["admin", "captain"]) := by
  intro settings
  have valid : settings.problems = [] := by decide
  have oneSpelling : settings.authentication.OneSpelling := by
    unfold AuthenticationSettings.OneSpelling
    decide
  obtain ⟨honours, _, answers, _⟩ := honours_iff_oneSpelling settings valid
  exact ⟨valid, oneSpelling, honours.2 oneSpelling, answers "CN=kirk,OU = client"⟩

/-- Valid settings that map one principal under two spellings know it as the later user alone, in
either spelling. -/
theorem two_spellings_one_entry :
    let settings : Settings :=
      { authentication := { principals :=
          [⟨"CN=kirk", "kirk", []⟩, ⟨"CN = kirk", "spock", []⟩] } }
    settings.problems = [] ∧ (ofSettings settings.authentication).size = 1 ∧
      (ofSettings settings.authentication).answer "CN=kirk" =
        .known ⟨"spock", .empty, .empty⟩ := by
  intro settings
  refine ⟨?_, ?_, ?_⟩
  · decide
  · decide
  · decide

end PrincipalTable

end NodeGate
