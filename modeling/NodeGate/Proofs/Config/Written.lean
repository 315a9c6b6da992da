import NodeGate.Proofs.Config.Forms
import NodeGate.Proofs.Identity.Description
import NodeGate.Proofs.NameMap

/-!
# Written settings are read back

Whatever form settings are written in, they are read back, and a list that is too long is refused
wherever it stands (`everyForm_read`). What a value has for each field of a section is what the
field means (`WritesFields.fields_eq_some`), whether it is a table or a list; so each section is
read by its own fields, and the settings by their sections.
-/

namespace NodeGate

open Value

namespace Value

/-- What is written for a field, if anything, is what it means. -/
def Field.Accepts (field : Field) : Option Value → Prop
  | some value => field.means value
  | none => field.omissible

/-- A table is looked up in as the entries of a map are. -/
theorem lookup_eq_lookup (name : String) (entries : List (String × Value)) :
    lookup name entries = NameMap.lookup name entries := by
  induction entries with
  | nil => rfl
  | cons entry rest inductionHypothesis =>
      rw [lookup, NameMap.lookup, inductionHypothesis]
      simp only [eq_comm]

/-- The only entry of a name is found. -/
theorem lookup_of_only {name : String} {value : Value} {before after : List (String × Value)}
    (only : ∀ entry ∈ before ++ after, entry.1 ≠ name) :
    lookup name (before ++ (name, value) :: after) = some value := by
  rw [lookup_eq_lookup, NameMap.lookup_eq_some_iff_split]
  exact ⟨before, after, rfl, fun entry member => only entry (List.mem_append_left _ member)⟩

/-- What entries have under the name of a field is what it means. -/
theorem HoldsField.accepts {entries : List (String × Value)} {field : Field}
    (holds : HoldsField entries field) : field.Accepts (lookup field.name entries) := by
  cases holds with
  | once whole only meaning =>
      subst whole
      rw [lookup_of_only only]
      exact meaning
  | leftOut absent default =>
      rw [lookup_eq_lookup, NameMap.lookup_eq_none fun entry member => (absent entry member).symm]
      exact default

/-- What items have in the place of a field is what it means. -/
theorem InOrder.accepts {fields : List Field} {items : List Value} (ordered : InOrder fields items)
    {position : Nat} {field : Field} (there : fields[position]? = some field) :
    field.Accepts items[position]? := by
  induction ordered generalizing position with
  | leftOut defaults => exact defaults field (List.mem_of_getElem? there)
  | next meaning others inductionHypothesis =>
      cases position with
      | zero =>
          cases there
          exact meaning
      | succ position => exact inductionHypothesis there

/-- There are at most as many items as fields. -/
theorem InOrder.length_le {fields : List Field} {items : List Value}
    (ordered : InOrder fields items) : items.length ≤ fields.length := by
  induction ordered with
  | leftOut _ => exact Nat.zero_le _
  | next _ _ inductionHypothesis => exact Nat.succ_le_succ inductionHypothesis

/-- A value that writes fields has for each of them what it means. -/
theorem WritesFields.fields_eq_some {fields : List Field} {value : Value}
    (writes : WritesFields fields value) (dialect : Dialect) :
    ∃ found, value.fields dialect (fields.map (·.name)) = some found ∧
      List.Forall₂ Field.Accepts fields found := by
  cases writes with
  | table each =>
      refine ⟨_, rfl, ?_⟩
      rw [List.map_map, List.forall₂_map_right_iff, List.forall₂_same]
      exact fun field member => (each field member).accepts
  | list ordered =>
      refine ⟨_, if_pos (.inl (by simpa using ordered.length_le)), ?_⟩
      rw [List.forall₂_iff_get]
      refine ⟨by simp, fun position there _ => ?_⟩
      simpa using ordered.accepts (List.getElem?_eq_getElem there)

/-- A field that may be left out is read as its content. -/
theorem orDefault_of_accepts {Content : Type} {name : String} {writes : Content → Value → Prop}
    {content default : Content} {read : Value → Option Content} {found : Option Value}
    (reads : ∀ content value, writes content value → read value = some content)
    (accepts : (Field.optional name writes content default).Accepts found) :
    orDefault default read found = some content := by
  cases found with
  | some value => exact reads content value accepts
  | none => exact congrArg some (Eq.symm accepts)

/-- A field that may not be left out is written, and read as its content. -/
theorem eq_some_of_accepts {Content : Type} {name : String} {writes : Content → Value → Prop}
    {content : Content} {read : Value → Option Content} {found : Option Value}
    (reads : ∀ content value, writes content value → read value = some content)
    (accepts : (Field.required name writes content).Accepts found) :
    ∃ value, found = some value ∧ read value = some content := by
  cases found with
  | some value => exact ⟨value, rfl, reads content value accepts⟩
  | none => exact accepts.elim

/-- A text is read as itself. -/
theorem text?_of_writes (content : String) (value : Value) (writes : WritesText content value) :
    text? value = some content := by
  cases writes
  rfl

/-- A flag is read as itself. -/
theorem bool?_of_writes (content : Bool) (value : Value) (writes : WritesFlag content value) :
    bool? value = some content := by
  cases writes
  rfl

/-- A text that may be null is read as itself. -/
theorem optionalText?_of_writes (content : Option String) (value : Value)
    (writes : WritesOptionalText content value) : optionalText? value = some content := by
  cases writes <;> rfl

/-- A list is read item by item. -/
theorem list?_of_writes {Content : Type} {writes : Content → Value → Prop}
    {read : Value → Option Content}
    (reads : ∀ content value, writes content value → read value = some content)
    (contents : List Content) (value : Value) (written : WritesList writes contents value) :
    list? read value = some contents := by
  cases written with
  | list each =>
      exact Identity.mapM_eq_some_of_forall₂ (fun value content => reads content value) each.flip

end Value

/-- The form of log lines is read by its name. -/
theorem LogFormat.name?_of_writes (dialect : Dialect) (format : LogFormat) (value : Value)
    (writes : format.Writes value) : name? dialect LogFormat.ofName? value = some format := by
  cases writes
  cases format <;> rfl

variable {dialect : Dialect}

/-- A value that writes the cluster section is read as it. -/
theorem ClusterSettings.ofValue?_of_writes (settings : ClusterSettings) (value : Value)
    (writes : settings.Writes value) : ofValue? dialect value = some settings := by
  obtain ⟨_, found, _ | ⟨name, _ | _⟩⟩ := writes.fields_eq_some dialect
  have readName : orDefault "cluster" text? _ = some settings.name :=
    orDefault_of_accepts text?_of_writes name
  simp [ofValue?, show value.fields dialect ["name"] = some _ from found, readName]

/-- A value that writes the transport section is read as it. -/
theorem TransportSettings.ofValue?_of_writes (settings : TransportSettings) (value : Value)
    (writes : settings.Writes value) : ofValue? dialect value = some settings := by
  obtain ⟨_, found, _ | ⟨nodesDn, _ | ⟨certificateOid, _ | _⟩⟩⟩ := writes.fields_eq_some dialect
  have readNodesDn : orDefault [] (list? text?) _ = some settings.nodesDn :=
    orDefault_of_accepts (list?_of_writes text?_of_writes) nodesDn
  have readCertificateOid : orDefault none optionalText? _ = some settings.certificateOid :=
    orDefault_of_accepts optionalText?_of_writes certificateOid
  simp [ofValue?, show value.fields dialect ["nodes_dn", "certificate_oid"] = some _ from found,
    readNodesDn, readCertificateOid]

/-- A value that writes the section of the protected index is read as it. -/
theorem ProtectedIndexSettings.ofValue?_of_writes (settings : ProtectedIndexSettings)
    (value : Value) (writes : settings.Writes value) :
    ofValue? dialect value = some settings := by
  obtain ⟨_, found, _ | ⟨name, _ | ⟨filterMode, _ | ⟨restoreEnabled, _ | _⟩⟩⟩⟩ :=
    writes.fields_eq_some dialect
  have readName : orDefault ".sg-config" text? _ = some settings.name :=
    orDefault_of_accepts text?_of_writes name
  have readFilterMode : orDefault false bool? _ = some settings.filterMode :=
    orDefault_of_accepts bool?_of_writes filterMode
  have readRestoreEnabled : orDefault false bool? _ = some settings.restoreEnabled :=
    orDefault_of_accepts bool?_of_writes restoreEnabled
  simp [ofValue?,
    show value.fields dialect ["name", "filter_mode", "restore_enabled"] = some _ from found,
    readName, readFilterMode, readRestoreEnabled]

/-- A value that writes a principal is read as it. -/
theorem PrincipalSettings.ofValue?_of_writes (settings : PrincipalSettings) (value : Value)
    (writes : settings.Writes value) : ofValue? dialect value = some settings := by
  obtain ⟨_, found, _ | ⟨dn, _ | ⟨user, _ | ⟨backendRoles, _ | _⟩⟩⟩⟩ :=
    writes.fields_eq_some dialect
  obtain ⟨dn, rfl, readDn⟩ := eq_some_of_accepts text?_of_writes dn
  obtain ⟨user, rfl, readUser⟩ := eq_some_of_accepts text?_of_writes user
  have readBackendRoles : orDefault [] (list? text?) _ = some settings.backendRoles :=
    orDefault_of_accepts (list?_of_writes text?_of_writes) backendRoles
  simp [ofValue?, show value.fields dialect ["dn", "user", "backend_roles"] = some _ from found,
    readDn, readUser, readBackendRoles]

/-- A value that writes the authentication section is read as it. -/
theorem AuthenticationSettings.ofValue?_of_writes (settings : AuthenticationSettings)
    (value : Value) (writes : settings.Writes value) :
    ofValue? dialect value = some settings := by
  obtain ⟨_, found, _ | ⟨principals, _ | _⟩⟩ := writes.fields_eq_some dialect
  have readPrincipals : orDefault [] (list? (PrincipalSettings.ofValue? dialect)) _ =
      some settings.principals :=
    orDefault_of_accepts (list?_of_writes PrincipalSettings.ofValue?_of_writes) principals
  simp [ofValue?, show value.fields dialect ["principals"] = some _ from found, readPrincipals]

/-- A value that writes the audit section is read as it. -/
theorem AuditSettings.ofValue?_of_writes (settings : AuditSettings) (value : Value)
    (writes : settings.Writes value) : ofValue? dialect value = some settings := by
  obtain ⟨_, found, _ | ⟨enabled, _ | ⟨disabledCategories, _ | _⟩⟩⟩ :=
    writes.fields_eq_some dialect
  have readEnabled : orDefault true bool? _ = some settings.enabled :=
    orDefault_of_accepts bool?_of_writes enabled
  have readDisabledCategories :
      orDefault [] (list? text?) _ = some settings.disabledCategories :=
    orDefault_of_accepts (list?_of_writes text?_of_writes) disabledCategories
  simp [ofValue?, show value.fields dialect ["enabled", "disabled_categories"] = some _ from found,
    readEnabled, readDisabledCategories]

/-- A value that writes the observability section is read as it. -/
theorem ObservabilitySettings.ofValue?_of_writes (settings : ObservabilitySettings)
    (value : Value) (writes : settings.Writes value) :
    ofValue? dialect value = some settings := by
  obtain ⟨_, found, _ | ⟨logLevel, _ | ⟨logFormat, _ | ⟨metricsEnabled, _ |
    ⟨metricsAddress, _ | _⟩⟩⟩⟩⟩ := writes.fields_eq_some dialect
  have readLogLevel : orDefault "info" text? _ = some settings.logLevel :=
    orDefault_of_accepts text?_of_writes logLevel
  have readLogFormat : orDefault .pretty (name? dialect LogFormat.ofName?) _ =
      some settings.logFormat :=
    orDefault_of_accepts (LogFormat.name?_of_writes dialect) logFormat
  have readMetricsEnabled : orDefault false bool? _ = some settings.metricsEnabled :=
    orDefault_of_accepts bool?_of_writes metricsEnabled
  have readMetricsAddress : orDefault "127.0.0.1:9090" text? _ = some settings.metricsAddress :=
    orDefault_of_accepts text?_of_writes metricsAddress
  simp [ofValue?, show value.fields dialect ["log_level", "log_format", "metrics_enabled",
    "metrics_address"] = some _ from found, readLogLevel, readLogFormat, readMetricsEnabled,
    readMetricsAddress]

namespace Settings

/-- A value that writes settings is read as them. -/
theorem ofValue?_of_writes (settings : Settings) (value : Value) (writes : settings.Writes value) :
    ofValue? dialect value = some settings := by
  obtain ⟨_, found, _ | ⟨cluster, _ | ⟨transport, _ | ⟨protectedIndex, _ | ⟨authentication, _ |
    ⟨audit, _ | ⟨observability, _ | _⟩⟩⟩⟩⟩⟩⟩ := writes.fields_eq_some dialect
  have readCluster : orDefault {} (ClusterSettings.ofValue? dialect) _ = some settings.cluster :=
    orDefault_of_accepts ClusterSettings.ofValue?_of_writes cluster
  have readTransport : orDefault {} (TransportSettings.ofValue? dialect) _ =
      some settings.transport :=
    orDefault_of_accepts TransportSettings.ofValue?_of_writes transport
  have readProtectedIndex : orDefault {} (ProtectedIndexSettings.ofValue? dialect) _ =
      some settings.protectedIndex :=
    orDefault_of_accepts ProtectedIndexSettings.ofValue?_of_writes protectedIndex
  have readAuthentication : orDefault {} (AuthenticationSettings.ofValue? dialect) _ =
      some settings.authentication :=
    orDefault_of_accepts AuthenticationSettings.ofValue?_of_writes authentication
  have readAudit : orDefault {} (AuditSettings.ofValue? dialect) _ = some settings.audit :=
    orDefault_of_accepts AuditSettings.ofValue?_of_writes audit
  have readObservability : orDefault {} (ObservabilitySettings.ofValue? dialect) _ =
      some settings.observability :=
    orDefault_of_accepts ObservabilitySettings.ofValue?_of_writes observability
  simp [ofValue?, show value.fields dialect ["cluster", "transport", "protected_index",
    "authentication", "audit", "observability"] = some _ from found, readCluster, readTransport,
    readProtectedIndex, readAuthentication, readAudit, readObservability]

end Settings

namespace Value

/-- An entry under another name makes no difference to a field. -/
theorem HoldsField.cons {entries : List (String × Value)} {field : Field}
    {entry : String × Value} (holds : HoldsField entries field) (other : entry.1 ≠ field.name) :
    HoldsField (entry :: entries) field := by
  cases holds with
  | once whole only meaning =>
      rw [whole]
      exact .once (List.cons_append ..).symm (List.forall_mem_cons.2 ⟨other, only⟩) meaning
  | leftOut absent default => exact .leftOut (List.forall_mem_cons.2 ⟨other, absent⟩) default

/-- Entries that are all fields in their order hold them. -/
theorem WritesFields.ofAll {fields : List Field} {entries : List (String × Value)}
    (each : List.Forall₂ (fun field entry => field.name = entry.1 ∧ field.means entry.2) fields
      entries) (distinct : (fields.map (·.name)).Nodup) : WritesFields fields (.table entries) := by
  refine .table ?_
  -- The names are distinct, so the first entry is under no later name and its own is not repeated.
  induction each with
  | nil => exact List.forall_mem_nil _
  | @cons field entry fields entries here others inductionHypothesis =>
      obtain ⟨fresh, distinct⟩ := List.nodup_cons.1 distinct
      have new : field.name ∉ fields.map (·.name) := fresh
      have names : fields.map (·.name) = entries.map (·.1) := by
        rw [← List.forall₂_eq_eq_eq, List.forall₂_map_left_iff, List.forall₂_map_right_iff]
        exact others.imp fun _ _ both => both.1
      refine List.forall_mem_cons.2 ⟨?_, fun other member => ?_⟩
      · have whole : entry :: entries = [] ++ (field.name, entry.2) :: entries := by
          rw [here.1]
          rfl
        refine .once whole (fun later member same => new ?_) here.2
        rw [names, ← same]
        exact List.mem_map_of_mem member
      · refine (inductionHypothesis distinct other member).cons fun same => new ?_
        rw [here.1, same]
        exact List.mem_map_of_mem member

/-- A list is written item by item. -/
theorem WritesList.ofMap {Content : Type} {writes : Content → Value → Prop}
    {write : Content → Value} (each : ∀ content, writes content (write content))
    (contents : List Content) : WritesList writes contents (.list (contents.map write)) := by
  refine .list ?_
  rw [List.forall₂_map_right_iff, List.forall₂_same]
  exact fun content _ => each content

end Value

/-- The full form of the cluster section writes it. -/
theorem ClusterSettings.writes_toValue (settings : ClusterSettings) :
    settings.Writes settings.toValue :=
  .ofAll (.cons ⟨rfl, .text _⟩ .nil) (by simp)

/-- The full form of the transport section writes it. -/
theorem TransportSettings.writes_toValue (settings : TransportSettings) :
    settings.Writes settings.toValue := by
  have oid : WritesOptionalText settings.certificateOid
      ((settings.certificateOid.map Value.text).getD .null) := by
    cases settings.certificateOid with
    | none => exact .unset
    | some oid => exact .text oid
  exact .ofAll (.cons ⟨rfl, .ofMap .text _⟩ (.cons ⟨rfl, oid⟩ .nil)) (by simp [Field.optional])

/-- The full form of the section of the protected index writes it. -/
theorem ProtectedIndexSettings.writes_toValue (settings : ProtectedIndexSettings) :
    settings.Writes settings.toValue :=
  .ofAll (.cons ⟨rfl, .text _⟩ (.cons ⟨rfl, .bool _⟩ (.cons ⟨rfl, .bool _⟩ .nil)))
    (by simp [Field.optional])

/-- The full form of a principal writes it. -/
theorem PrincipalSettings.writes_toValue (settings : PrincipalSettings) :
    settings.Writes settings.toValue :=
  .ofAll (.cons ⟨rfl, .text _⟩ (.cons ⟨rfl, .text _⟩ (.cons ⟨rfl, .ofMap .text _⟩ .nil)))
    (by simp [Field.required, Field.optional])

/-- The full form of the authentication section writes it. -/
theorem AuthenticationSettings.writes_toValue (settings : AuthenticationSettings) :
    settings.Writes settings.toValue :=
  .ofAll (.cons ⟨rfl, .ofMap PrincipalSettings.writes_toValue _⟩ .nil) (by simp)

/-- The full form of the audit section writes it. -/
theorem AuditSettings.writes_toValue (settings : AuditSettings) :
    settings.Writes settings.toValue :=
  .ofAll (.cons ⟨rfl, .bool _⟩ (.cons ⟨rfl, .ofMap .text _⟩ .nil)) (by simp [Field.optional])

/-- The full form of the observability section writes it. -/
theorem ObservabilitySettings.writes_toValue (settings : ObservabilitySettings) :
    settings.Writes settings.toValue :=
  .ofAll (.cons ⟨rfl, .text _⟩ (.cons ⟨rfl, .text _⟩ (.cons ⟨rfl, .bool _⟩
    (.cons ⟨rfl, .text _⟩ .nil)))) (by simp [Field.optional])

/-- The full form of settings writes them. -/
theorem Settings.writes_toValue (settings : Settings) : settings.Writes settings.toValue :=
  .ofAll (.cons ⟨rfl, settings.cluster.writes_toValue⟩
    (.cons ⟨rfl, settings.transport.writes_toValue⟩
    (.cons ⟨rfl, settings.protectedIndex.writes_toValue⟩
    (.cons ⟨rfl, settings.authentication.writes_toValue⟩
    (.cons ⟨rfl, settings.audit.writes_toValue⟩
    (.cons ⟨rfl, settings.observability.writes_toValue⟩ .nil)))))) (by simp [Field.optional])

namespace Value

variable {names : List String} {items : List Value}

/-- Nothing is read from a list with more items than there are fields. -/
theorem not_reads_of_surplus {Content : Type} {rest : List (Option Value) → Option Content}
    {content : Content}
    (read : (fields jsonDialect names (.list items)).bind rest = some content)
    (surplus : names.length < items.length) : False := by
  have refused : fields jsonDialect names (.list items) = none := by
    refine if_neg ?_
    rintro (fits | ⟨⟨⟩⟩)
    exact absurd surplus (Nat.not_lt.2 fits)
  rw [refused] at read
  cases read

/-- What a value has for a field is among what is found, if the fields are found at all. -/
theorem HasField.getElem?_fields {name : String} {position : Nat} {value inner : Value}
    (written : value.HasField name position inner) {found : List (Option Value)}
    (read : value.fields dialect names = some found) (declared : names[position]? = some name) :
    found[position]? = some (some inner) := by
  cases written with
  | named only =>
      cases read
      rw [List.getElem?_map, declared, Option.map_some, lookup_of_only only]
  | placed there =>
      simp only [fields, Option.ite_none_right_eq_some, Option.some.injEq] at read
      have inside : position < names.length := (List.getElem?_eq_some_iff.1 declared).1
      simp [← read.2, inside, there]

end Value

/-- If a list is read, each of its items is. -/
theorem Value.reads_of_list? {Content : Type} {read : Value → Option Content} {items : List Value}
    {contents : List Content} (listRead : list? read (.list items) = some contents) {item : Value}
    (member : item ∈ items) : ∃ content, read item = some content := by
  rw [list?] at listRead
  induction items generalizing contents with
  | nil => cases member
  | cons first rest inductionHypothesis =>
      rw [List.mapM_cons] at listRead
      obtain ⟨content, readFirst, readRest⟩ := Option.bind_eq_some_iff.1 listRead
      obtain ⟨others, readOthers, -⟩ := Option.bind_eq_some_iff.1 readRest
      obtain rfl | later := List.mem_cons.1 member
      · exact ⟨content, readFirst⟩
      · exact inductionHypothesis readOthers later

variable {value : Value}

/-- Authentication is read from a value only if the principals are read from what it has for
them. -/
theorem AuthenticationSettings.reads_of_ofValue? {settings : AuthenticationSettings}
    (read : ofValue? dialect value = some settings) :
    ∃ principals, value.fields dialect ["principals"] = some [principals] ∧
      orDefault [] (list? (PrincipalSettings.ofValue? dialect)) principals =
        some settings.principals := by
  obtain ⟨found, fieldsRead, read⟩ := Option.bind_eq_some_iff.1 read
  split at read
  · obtain ⟨principals, readPrincipals, set⟩ := Option.bind_eq_some_iff.1 read
    cases set
    exact ⟨_, fieldsRead, readPrincipals⟩
  · cases read

namespace Settings

/-- Settings are read from a value only if each section is read from what the value has for it. -/
theorem reads_of_ofValue? {settings : Settings} (read : ofValue? dialect value = some settings) :
    ∃ cluster transport protectedIndex authentication audit observability,
      value.fields dialect (sectionSizes.map (·.1)) = some [cluster, transport, protectedIndex,
        authentication, audit, observability] ∧
      orDefault {} (ClusterSettings.ofValue? dialect) cluster = some settings.cluster ∧
      orDefault {} (TransportSettings.ofValue? dialect) transport = some settings.transport ∧
      orDefault {} (ProtectedIndexSettings.ofValue? dialect) protectedIndex =
        some settings.protectedIndex ∧
      orDefault {} (AuthenticationSettings.ofValue? dialect) authentication =
        some settings.authentication ∧
      orDefault {} (AuditSettings.ofValue? dialect) audit = some settings.audit ∧
      orDefault {} (ObservabilitySettings.ofValue? dialect) observability =
        some settings.observability := by
  obtain ⟨found, fieldsRead, read⟩ := Option.bind_eq_some_iff.1 read
  split at read
  · simp only [Option.bind_eq_bind, Option.bind_eq_some_iff, Option.pure_def, Option.some.injEq]
      at read
    obtain ⟨cluster, readCluster, transport, readTransport, protectedIndex, readProtectedIndex,
      authentication, readAuthentication, audit, readAudit, observability, readObservability,
      rfl⟩ := read
    exact ⟨_, _, _, _, _, _, fieldsRead, readCluster, readTransport, readProtectedIndex,
      readAuthentication, readAudit, readObservability⟩
  · cases read

/-- A value with a list that is too long is read as no settings. -/
theorem ofValue?_of_hasSurplus (surplus : HasSurplus value) :
    ofValue? jsonDialect value = none := by
  -- If the settings were read, so would be the section or the principal that is written too long.
  refine Option.eq_none_iff_forall_ne_some.2 fun settings read => ?_
  cases surplus with
  | settings surplus => exact not_reads_of_surplus read surplus
  | @inSection _ name position size items declared written surplus =>
      obtain ⟨_, _, _, _, _, _, found, cluster, transport, protectedIndex, authentication, audit,
        observability⟩ := reads_of_ofValue? read
      have there := written.getElem?_fields found (by rw [List.getElem?_map, declared]; rfl)
      match position, declared with
      | 0, rfl =>
          cases there
          exact not_reads_of_surplus cluster surplus
      | 1, rfl =>
          cases there
          exact not_reads_of_surplus transport surplus
      | 2, rfl =>
          cases there
          exact not_reads_of_surplus protectedIndex surplus
      | 3, rfl =>
          cases there
          exact not_reads_of_surplus authentication surplus
      | 4, rfl =>
          cases there
          exact not_reads_of_surplus audit surplus
      | 5, rfl =>
          cases there
          exact not_reads_of_surplus observability surplus
  | @inPrincipal _ _ principals items written listed among surplus =>
      obtain ⟨_, _, _, _, _, _, found, -, -, -, authentication, -, -⟩ := reads_of_ofValue? read
      cases written.getElem?_fields found rfl
      obtain ⟨principalsField, found, readPrincipals⟩ :=
        AuthenticationSettings.reads_of_ofValue? authentication
      cases listed.getElem?_fields found rfl
      obtain ⟨principal, readPrincipal⟩ := reads_of_list? readPrincipals among
      exact not_reads_of_surplus readPrincipal surplus

/-- The full form of settings is read back. So is every value that writes them: with fields left
out that hold defaults, with anything else beside the fields, with the fields in any order, or as
lists in the order of the fields. A list that is too long is refused wherever it stands. -/
theorem everyForm_read (settings : Settings) :
    ofValue? jsonDialect settings.toValue = some settings ∧
      (∀ value, settings.Writes value → ofValue? jsonDialect value = some settings) ∧
      ∀ value, HasSurplus value → ofValue? jsonDialect value = none :=
  ⟨settings.ofValue?_of_writes _ settings.writes_toValue, settings.ofValue?_of_writes,
    fun _ => ofValue?_of_hasSurplus⟩

/-- Lists and tables may be mixed, and what is not written is as by default. -/
example :
    ofValue? jsonDialect (.table [("audit", .list [.bool false]), ("comment", .number),
        ("authentication", .list [.list [.list [.text "CN=kirk", .text "kirk"]]])]) =
      some {
        audit := { enabled := false }
        authentication := { principals := [{ dn := "CN=kirk", user := "kirk" }] } } := by
  rfl

end Settings

end NodeGate
