import NodeGate.Proofs.Admission.Spelling
import NodeGate.Proofs.Reload.Refinement

/-!
# Spelling of distinguished names

Settings name nodes and principals by distinguished names, and channels name their peers by them.
Two nodes whose settings, and whose histories, differ in the spelling of such names alone hold the
same guard but for the spelling of what the backend was asked (`run_normalized_congr`). They come to
the same verdict on every request, and to the same but for the recorded principal where the channel
spells its peer's name in another way (`run_spellingWithoutInfluence`).
-/

namespace NodeGate

open Admission

/-- The settings with the names of nodes in normalised spelling. -/
def TransportSettings.normalized (settings : TransportSettings) : TransportSettings :=
  { settings with nodesDn := settings.nodesDn.map DistinguishedName.normalize }

/-- The settings with the name of the principal in normalised spelling. -/
def PrincipalSettings.normalized (settings : PrincipalSettings) : PrincipalSettings :=
  { settings with dn := DistinguishedName.normalize settings.dn }

/-- The settings with the names of principals in normalised spelling. -/
def AuthenticationSettings.normalized (settings : AuthenticationSettings) :
    AuthenticationSettings :=
  { settings with principals := settings.principals.map PrincipalSettings.normalized }

/-- The settings with every distinguished name in normalised spelling. -/
def Settings.normalized (settings : Settings) : Settings :=
  { settings with
    transport := settings.transport.normalized
    authentication := settings.authentication.normalized }

/-- Nodes are recognised alike under settings that are equal in normalised spelling. -/
theorem NodeRecognition.ofSettings_congr {left right : TransportSettings}
    (same : left.normalized = right.normalized) : ofSettings left = ofSettings right := by
  obtain ⟨patterns, oid⟩ := TransportSettings.mk.inj same
  have built (settings : TransportSettings) : ofSettings settings =
      ⟨(settings.nodesDn.map DistinguishedName.normalize).map Pattern.mk,
        settings.certificateOid⟩ := by
    rw [List.map_map]
    rfl
  rw [built left, built right, patterns, oid]

/-- Principals are known alike under settings that are equal in normalised spelling. -/
theorem PrincipalTable.ofSettings_congr {left right : AuthenticationSettings}
    (same : left.normalized = right.normalized) : ofSettings left = ofSettings right := by
  have principals := AuthenticationSettings.mk.inj same
  have built (settings : AuthenticationSettings) : ofSettings settings =
      ⟨NameMap.ofList ((settings.principals.map PrincipalSettings.normalized).map fun mapping =>
        (mapping.dn, Identity.withBackendRoles { name := mapping.user } mapping.backendRoles))⟩ := by
    rw [List.map_map]
    rfl
  rw [built left, built right, principals]

namespace Node

/-- The rules of a node read principals in normalised spelling alone. -/
theorem policy_ignoresSpelling (complaints : HeaderValue.Complaints) (cluster : String)
    (transport : TransportSettings) (authentication : AuthenticationSettings) :
    (policy complaints cluster transport authentication).IgnoresSpelling where
  recognises _ _ _ _ _ spelled := by
    simp only [policy, NodeRecognition.recognises, spelled]
  authenticate _ _ _ _ spelled := by
    simp only [policy, PrincipalTable.answer, PrincipalTable.identity?, spelled]

/-- Settings that are equal in normalised spelling make the same rules. -/
theorem policy_congr (complaints : HeaderValue.Complaints) (cluster : String)
    {left right : Settings} (same : left.normalized = right.normalized) :
    policy complaints cluster left.transport left.authentication =
      policy complaints cluster right.transport right.authentication := by
  obtain ⟨_, transport, _, authentication, _, _⟩ := Settings.mk.inj same
  simp only [policy, NodeRecognition.ofSettings_congr transport,
    PrincipalTable.ofSettings_congr authentication]

/-- Settings that are equal in normalised spelling start the same guard. -/
theorem start_guard_congr (complaints : HeaderValue.Complaints) {left right : Settings}
    (same : left.normalized = right.normalized) :
    (start complaints left).guard = (start complaints right).guard := by
  obtain ⟨cluster, _, protectedIndex, _, audit, _⟩ := Settings.mk.inj same
  simp only [start, policy_congr _ _ same, cluster, protectedIndex, audit]

end Node

namespace CursorLedger

/-- A cursor is created alike in every spelling of the recorded principal. -/
theorem create_congr (ledger : CursorLedger) (cursor : String) {left right : SecurityContext}
    (contexts : left.normalized = right.normalized) :
    ledger.create cursor left = ledger.create cursor right :=
  calc
    ledger.create cursor left = ledger.create cursor left.normalized := rfl
    _ = ledger.create cursor right.normalized := by rw [contexts]
    _ = ledger.create cursor right := rfl

/-- A cursor is gone on with alike in every spelling of the recorded principal. -/
theorem validate_congr (ledger : CursorLedger) (cursor : String) {left right : SecurityContext}
    (contexts : left.normalized = right.normalized) :
    ledger.validate cursor left = ledger.validate cursor right :=
  calc
    ledger.validate cursor left = ledger.validate cursor left.normalized := rfl
    _ = ledger.validate cursor right.normalized := by rw [contexts]
    _ = ledger.validate cursor right := rfl

end CursorLedger

namespace Guard

/-- The guard with what its backend was asked in normalised spelling. -/
def normalized (guard : Guard) : Guard :=
  { guard with calls := guard.calls.map BackendCall.normalized }

/-- The entry with what the backend was asked in normalised spelling. -/
def Entry.normalized : Entry → Entry
  | .asked call => .asked call.normalized
  | entry => entry

/-- Entries are made alike in normalised spelling. -/
theorem normalized_noteAll (guard : Guard) (entries : List Entry) :
    (guard.noteAll entries).normalized =
      guard.normalized.noteAll (entries.map Entry.normalized) := by
  induction entries generalizing guard with
  | nil => rfl
  | cons entry rest inductionHypothesis =>
      have first : (guard.note entry).normalized = guard.normalized.note entry.normalized := by
        cases entry with
        | asked call => simp [note, noteCalls, normalized, Entry.normalized]
        | counted | shown | written => rfl
      have later := inductionHypothesis (guard.note entry)
      rw [first] at later
      exact later

/-- Guards that are equal in normalised spelling decide alike. -/
theorem alike_of_normalized {left right : Guard} (same : left.normalized = right.normalized) :
    Alike left right := by
  obtain ⟨_, policy, sink, protection, cursors, _, _⟩ := Guard.mk.inj same
  exact ⟨⟨policy, sink, protection⟩, cursors⟩

/-- Two operations are the same but for the spelling of a principal, which a channel names or a
context records. -/
inductive Operation.Respelled : Operation → Operation → Prop where
  | same (operation : Operation) : Respelled operation operation
  | receive (request : Request) {left right : Channel}
      (channels : left.normalized = right.normalized) :
      Respelled (.receive request left) (.receive request right)
  | createCursor (cursor : String) {left right : SecurityContext}
      (contexts : left.normalized = right.normalized) :
      Respelled (.createCursor cursor left) (.createCursor cursor right)
  | validateCursor (cursor : String) {left right : SecurityContext} (summary : RequestSummary)
      (contexts : left.normalized = right.normalized) :
      Respelled (.validateCursor cursor left summary) (.validateCursor cursor right summary)

/-- A verdict makes the same entries in every spelling. -/
theorem verdictEntries_normalized (sink : AuditSink) (request : Request) (channel : Channel)
    (verdict : Verdict) :
    verdictEntries sink request channel.normalized verdict.normalized =
      verdictEntries sink request channel verdict := by
  cases verdict <;> rfl

/-- Operations that differ in spelling alone make entries that do. -/
theorem normalized_entries_congr {guard : Guard} (ignores : guard.policy.IgnoresSpelling)
    {left right : Operation} (respelled : left.Respelled right) :
    (guard.entries left).map Entry.normalized = (guard.entries right).map Entry.normalized := by
  cases respelled with
  | same => rfl
  | receive request channels =>
      rename_i left right
      have verdicts : verdictEntries guard.sink request left
            (course guard.policy request left).verdict =
          verdictEntries guard.sink request right (course guard.policy request right).verdict := by
        have spelled (channel : Channel) := verdictEntries_normalized guard.sink request channel
          (judge guard.policy request channel)
        change verdictEntries _ _ _ (judge guard.policy request left) =
          verdictEntries _ _ _ (judge guard.policy request right)
        rw [← spelled left, ← spelled right, channels, normalized_judge_congr ignores channels]
      have asked (channel : Channel) :
          ((course guard.policy request channel).calls.map Entry.asked).map Entry.normalized =
            (((backendCall? guard.policy request channel).map BackendCall.normalized).map
              Entry.asked).toList := by
        rw [calls_course]
        cases backendCall? guard.policy request channel <;> rfl
      simp only [entries, List.map_append, verdicts, asked,
        normalized_backendCall?_congr ignores channels]
  | createCursor cursor contexts =>
      simp only [entries, guard.cursors.create_congr cursor contexts]
  | validateCursor cursor summary contexts =>
      simp only [entries, guard.cursors.validate_congr cursor contexts]

/-- Operations that differ in spelling alone leave the same ledger. -/
theorem after_congr (ledger : CursorLedger) {left right : Operation}
    (respelled : left.Respelled right) : ledger.after left = ledger.after right := by
  cases respelled with
  | same | receive | validateCursor => rfl
  | createCursor cursor contexts => exact ledger.create_congr cursor contexts

/-- Guards that are equal in normalised spelling are so after operations that differ in spelling
alone. -/
theorem normalized_perform_congr {left right : Guard} (same : left.normalized = right.normalized)
    (ignores : left.policy.IgnoresSpelling) {operation other : Operation}
    (respelled : operation.Respelled other) :
    (left.perform operation).1.normalized = (right.perform other).1.normalized := by
  have alike := alike_of_normalized same
  have entries : (left.entries operation).map Entry.normalized =
      (right.entries other).map Entry.normalized := by
    rw [normalized_entries_congr ignores respelled, alike.entries_eq]
  have ledger : left.cursors.after operation = right.cursors.after other := by
    rw [after_congr left.cursors respelled, alike.cursors]
  have noted : (left.noteAll (left.entries operation)).normalized =
      (right.noteAll (right.entries other)).normalized := by
    rw [normalized_noteAll, normalized_noteAll, same, entries]
  rw [perform_fst, perform_fst, ledger]
  exact congrArg (fun guard => { guard with cursors := right.cursors.after other }) noted

/-- The spelling of a peer's principal has no influence on what two guards make of a request, and
they make the same of it. -/
structure SpellingWithoutInfluence (left right : Guard) : Prop where
  /-- A request on one channel comes to one verdict. -/
  verdict : ∀ request channel, (left.receive request channel).2 = (right.receive request channel).2
  /-- Channels that spell the principal in different ways come to verdicts that are equal in all
  but the principal that the context records. -/
  respelled : ∀ request channel other, channel.normalized = other.normalized →
    (left.receive request channel).2.normalized = (right.receive request other).2.normalized
  /-- The books are the same, but for the spelling of what the backend was asked. -/
  books : ∀ request channel other, channel.normalized = other.normalized →
    (left.receive request channel).1.normalized = (right.receive request other).1.normalized
  /-- The same audit records are written. -/
  journal : ∀ request channel other, channel.normalized = other.normalized →
    (left.receive request channel).1.journal = (right.receive request other).1.journal

/-- Guards that are equal in normalised spelling make the same of a request in every spelling. -/
theorem spellingWithoutInfluence {left right : Guard} (same : left.normalized = right.normalized)
    (ignores : left.policy.IgnoresSpelling) : SpellingWithoutInfluence left right := by
  have policies := (alike_of_normalized same).policy
  have books (request : Request) (channel other : Channel)
      (channels : channel.normalized = other.normalized) :
      (left.receive request channel).1.normalized = (right.receive request other).1.normalized :=
    normalized_perform_congr same ignores (.receive request channels)
  refine ⟨fun request channel => ?_, fun request channel other channels => ?_, books,
    fun request channel other channels => ?_⟩
  · exact congrArg (fun policy => judge policy request channel) policies
  · change (judge left.policy request channel).normalized =
      (judge right.policy request other).normalized
    rw [normalized_judge_congr ignores channels, policies]
  · obtain ⟨_, _, _, _, _, journal, _⟩ := Guard.mk.inj (books request channel other channels)
    exact journal

end Guard

namespace Node

/-- Two events are the same but for the spelling of distinguished names. -/
inductive Event.Respelled : Event → Event → Prop where
  | operation {left right : Guard.Operation} (operations : left.Respelled right) :
      Respelled (.operation left) (.operation right)
  | reload {left right : Settings} (settings : left.normalized = right.normalized) :
      Respelled (.reload left) (.reload right)

/-- No event makes a node read principals in another than the normalised spelling. -/
theorem step_ignoresSpelling {node : Node} (ignores : node.guard.policy.IgnoresSpelling)
    (event : Event) : (node.step event).1.guard.policy.IgnoresSpelling := by
  cases event with
  | operation operation =>
      have kept := (node.guard.perform_sameRules operation).policy
      change (node.guard.perform operation).1.policy.IgnoresSpelling
      rw [kept]
      exact ignores
  | reload settings => exact policy_ignoresSpelling _ _ _ _

/-- Nodes with guards that are equal in normalised spelling keep them so through events that
differ in spelling alone. -/
theorem step_normalized_congr {left right : Node}
    (same : left.guard.normalized = right.guard.normalized)
    (ignores : left.guard.policy.IgnoresSpelling) {event other : Event}
    (respelled : event.Respelled other) :
    (left.step event).1.guard.normalized = (right.step other).1.guard.normalized := by
  cases respelled with
  | operation operations => exact Guard.normalized_perform_congr same ignores operations
  | reload settings =>
      rename_i latest latest'
      obtain ⟨_, _, _, _, audit, _⟩ := Settings.mk.inj settings
      have rules : left.guard.policy = right.guard.policy :=
        (Guard.alike_of_normalized same).policy
      change
        { left.guard.normalized with
          policy := policy left.guard.policy.complaints left.guard.policy.clusterName
            latest.transport latest.authentication
          sink := .filtered (AuditFilter.ofSettings latest.audit) } = _
      rw [same, rules, policy_congr _ _ settings, audit]
      rfl

/-- Nodes with guards that are equal in normalised spelling keep them so through histories that
differ in spelling alone. -/
theorem run_normalized_congr {left right : Node} {events others : List Event}
    (same : left.guard.normalized = right.guard.normalized)
    (ignores : left.guard.policy.IgnoresSpelling)
    (history : List.Forall₂ Event.Respelled events others) :
    (left.run events).guard.normalized = (right.run others).guard.normalized := by
  induction history generalizing left right with
  | nil => exact same
  | cons respelled _ inductionHypothesis =>
      exact inductionHypothesis (step_normalized_congr same ignores respelled)
        (step_ignoresSpelling ignores _)

/-- The spelling of distinguished names, in settings that a node is started with or takes over and
on the channels of its peers, has no influence on what the node makes of any request. -/
theorem run_spellingWithoutInfluence (complaints : HeaderValue.Complaints)
    {started respelled : Settings} {events others : List Event}
    (settings : started.normalized = respelled.normalized)
    (history : List.Forall₂ Event.Respelled events others) :
    Guard.SpellingWithoutInfluence ((start complaints started).run events).guard
      ((start complaints respelled).run others).guard := by
  have same : (start complaints started).guard.normalized =
      (start complaints respelled).guard.normalized :=
    congrArg Guard.normalized (start_guard_congr complaints settings)
  apply Guard.spellingWithoutInfluence
  · exact run_normalized_congr same (policy_ignoresSpelling _ _ _ _) history
  · rw [(run_sameRules complaints started events).policy]
    exact policy_ignoresSpelling _ _ _ _

/-- A caller is known, and a pattern of nodes taken over, under other blanks than were
configured. -/
theorem run_spellingWithoutInfluence_other_blanks :
    let settings (dn pattern : String) : Settings :=
      { transport := { nodesDn := [pattern] }
        authentication := { principals := [{ dn, user := "kirk" }] } }
    let caller (principal : String) : Channel :=
      { type := some "netty", principal := some principal }
    let request : Request := { action := "indices:data/read/search" }
    let configured := (start {} (settings "CN=kirk, O=Example" "CN=node-*, O=Example")).run
      [.operation (.receive request (caller "CN=kirk")),
        .reload (settings "CN=kirk, O=Example" "CN=node-?, O=Example")]
    let respelled := (start {} (settings "CN = kirk,O=Example" "CN=node-* ,O= Example")).run
      [.operation (.receive request (caller "CN = kirk")),
        .reload (settings "CN=kirk ,O=Example" " CN=node-?,O=Example")]
    Guard.SpellingWithoutInfluence configured.guard respelled.guard ∧
      (respelled.guard.receive request (caller "CN= kirk,O =Example")).2 =
        .rejected ⟨.missingRemoteAddress, peerContext request .untrusted "CN= kirk,O =Example"⟩ := by
  intro settings caller request configured respelled
  have spelled {dn dn' pattern pattern' : String}
      (names : DistinguishedName.normalize dn = DistinguishedName.normalize dn')
      (patterns : DistinguishedName.normalize pattern = DistinguishedName.normalize pattern') :
      (settings dn pattern).normalized = (settings dn' pattern').normalized := by
    simp only [settings, Settings.normalized, TransportSettings.normalized,
      AuthenticationSettings.normalized, PrincipalSettings.normalized, List.map_cons, List.map_nil,
      names, patterns]
  have channels : (caller "CN=kirk").normalized = (caller "CN = kirk").normalized := by decide
  have started : (settings "CN=kirk, O=Example" "CN=node-*, O=Example").normalized =
      (settings "CN = kirk,O=Example" "CN=node-* ,O= Example").normalized :=
    spelled (by decide) (by decide)
  have reloaded : (settings "CN=kirk, O=Example" "CN=node-?, O=Example").normalized =
      (settings "CN=kirk ,O=Example" " CN=node-?,O=Example").normalized :=
    spelled (by decide) (by decide)
  have influence := run_spellingWithoutInfluence {} started
    (.cons (.operation (.receive request channels)) (.cons (.reload reloaded) .nil))
  exact ⟨influence, by decide⟩

end Node

end NodeGate
