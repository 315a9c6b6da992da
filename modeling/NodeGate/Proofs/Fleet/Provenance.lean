import NodeGate.Proofs.Admission.HandedOn
import NodeGate.Proofs.CursorHistory
import NodeGate.Proofs.Fleet.Visits

/-!
# Where identities come from

However often a request is handed on and however often nodes are reloaded, an identity in a
dispatched context was authenticated when the request entered: some caller that is no node was
dispatched whose principal the settings then in force map to it, and the context still has that
caller's address (`provenance_of_dispatched`). The invariant is `Provenant`; a request that a
node hands on inherits it from the context that the request carries, and a caller's own request
establishes it.
-/

namespace NodeGate

open Admission

variable {Name : Type} [DecidableEq Name]

namespace Visit

/-- The sender is taken at its word: the channel is direct, or a recognised node is at the other
end of a network channel. -/
def FromNodes (complaints : HeaderValue.Complaints) (settings : Name → Settings)
    (visit : Visit Name) : Prop :=
  visit.channel.type = some "direct" ∨
    visit.channel.type = some "netty" ∧
      (visit.host complaints settings).guard.policy.recognisesPeer visit.request visit.channel =
        true

/-- The private headers of a request are those that nodes write, if it has any. -/
inductive WrittenByNodes (complaints : HeaderValue.Complaints) (settings : Name → Settings)
    (visit : Visit Name) : Prop where
  /-- For a context that was dispatched earlier in the run. -/
  | ofContext {cluster : String} {earlier : Visit Name} {context : SecurityContext}
      (happened : earlier.upTo <+: visit.before)
      (dispatched : earlier.Dispatched complaints settings context)
      (written : visit.request.headers.SamePrivate (Outbound.ofContext cluster context))
  /-- For a request of their own. -/
  | ofNode {cluster : String}
      (written : visit.request.headers.SamePrivate (Outbound.ofNode cluster))
  /-- For a request that came in without any. -/
  | bare (unforged : Unforged visit.request.headers)

/-- A caller that is no node entered by a visit, and was authenticated as an identity. -/
structure Authenticates (complaints : HeaderValue.Complaints) (settings : Name → Settings)
    (visit : Visit Name) (identity : Identity) (address : Address) : Prop where
  network : visit.channel.type = some "netty"
  unrecognised :
    (visit.host complaints settings).guard.policy.recognisesPeer visit.request visit.channel = false
  /-- The settings in force at that moment map the verified principal to the identity. -/
  mapped : ∃ principal, visit.channel.principal = some principal ∧
    (PrincipalTable.ofSettings (visit.inForce settings).authentication).identity? principal =
      some identity
  admitted : ∃ context, visit.Dispatched complaints settings context
  address : visit.request.remoteAddress = some address

end Visit

open Visit

/-- In a run nodes send no private headers but those that they write. What anybody else sends is
arbitrary. -/
def Honest (complaints : HeaderValue.Complaints) (settings : Name → Settings)
    (events : List (Name × Node.Event)) : Prop :=
  ∀ visit : Visit Name, visit.upTo <+: events → visit.FromNodes complaints settings →
    visit.WrittenByNodes complaints settings

/-- An identity in the context of a visit was authenticated by then, at the address of the
context, and the context says that the transport is its origin. -/
def Provenant (complaints : HeaderValue.Complaints) (settings : Name → Settings)
    (visit : Visit Name) (context : SecurityContext) : Prop :=
  ∀ identity, context.identity = some identity →
    context.origin = some .transport ∧
      ∃ entry : Visit Name, entry.upTo <+: visit.upTo ∧
        ∃ address, entry.Authenticates complaints settings identity address ∧
          context.remoteAddress = some address

variable {complaints : HeaderValue.Complaints} {settings : Name → Settings} {visit : Visit Name}
  {context : SecurityContext}

/-- A sender that is taken at its word is the node itself or a recognised node. -/
theorem fromNodes_of_takenAtItsWord
    (sender :
      TakenAtItsWord (visit.host complaints settings).guard.policy visit.request visit.channel) :
    visit.FromNodes complaints settings := by
  rcases sender with itself | ⟨principal, node⟩
  · exact .inl (kind?_eq_some_iff.1 itself.direct)
  · exact .inr ⟨kind?_eq_some_iff.1 node.network, node.recognisesPeer_eq⟩

/-- What the backend of a node knows of a principal is what the settings in force map it to. -/
theorem identity?_of_authenticate {request : Request} {principal action : String}
    {identity : Identity}
    (known : (visit.host complaints settings).guard.policy.authenticate request principal action =
      .known identity) :
    (PrincipalTable.ofSettings (visit.inForce settings).authentication).identity? principal =
      some identity := by
  rw [(visit.host_sameRules complaints settings).policy] at known
  have answered : (PrincipalTable.ofSettings (visit.inForce settings).authentication).answer
      principal = .known identity := known
  unfold PrincipalTable.answer at answered
  split at answered
  · rename_i found
    cases answered
    exact found
  · cases answered

/-- A caller's own request establishes the invariant. -/
theorem provenant_of_fromCaller {principal : String}
    (sender : FromCaller (visit.host complaints settings).guard.policy visit.request visit.channel
      principal)
    (dispatched : visit.Dispatched complaints settings context) :
    Provenant complaints settings visit context := by
  intro identity carried
  have judged := Visit.dispatched_iff.1 dispatched
  obtain ⟨_, _, ⟨known, address, answered, reachable, rfl⟩ | ⟨_, _, rfl⟩⟩ :=
    sender.judge_dispatched_iff.1 judged
  · have same : known = identity := Option.some.inj carried
    subst same
    have authenticates : visit.Authenticates complaints settings known address :=
      { network := kind?_eq_some_iff.1 sender.network
        unrecognised := sender.recognisesPeer_eq
        mapped := ⟨principal, sender.verified, identity?_of_authenticate answered⟩
        admitted := ⟨_, dispatched⟩
        address := reachable }
    exact ⟨rfl, visit, List.prefix_refl _, address, authenticates, rfl⟩
  · cases carried

/-- A request that a node hands on inherits the invariant from the context that it carries. -/
theorem provenant_of_takenAtItsWord
    (sender :
      TakenAtItsWord (visit.host complaints settings).guard.policy visit.request visit.channel)
    (written : visit.WrittenByNodes complaints settings)
    (inherited : ∀ (earlier : Visit Name) context, earlier.upTo <+: visit.before →
      earlier.Dispatched complaints settings context →
        Provenant complaints settings earlier context)
    (dispatched : visit.Dispatched complaints settings context) :
    Provenant complaints settings visit context := by
  have judged := Visit.dispatched_iff.1 dispatched
  cases written with
  | ofContext happened earlierDispatched written =>
      rename_i earlier carriedOn
      obtain ⟨arrived, judgedAgain, handedOn⟩ := sender.judge_ofContext written
      cases judged.symm.trans judgedAgain
      intro identity carried
      rw [handedOn.identity] at carried
      obtain ⟨origin, entry, first, address, authenticates, placed⟩ :=
        inherited _ _ happened earlierDispatched identity carried
      refine ⟨handedOn.origin _ origin, entry, ?_, address, authenticates,
        handedOn.address _ placed⟩
      exact first.trans (happened.trans (List.prefix_append _ _))
  | ofNode written =>
      obtain ⟨arrived, judgedAgain, handedOn⟩ := sender.judge_ofNode written
      cases judged.symm.trans judgedAgain
      intro identity carried
      rw [handedOn.identity] at carried
      cases carried
  | bare unforged =>
      obtain ⟨arrived, judgedAgain, handedOn⟩ := sender.judge_unforged unforged
      cases judged.symm.trans judgedAgain
      intro identity carried
      rw [handedOn.identity] at carried
      cases carried

/-- Every dispatched context of an honest run satisfies the invariant. -/
theorem Honest.provenant {events : List (Name × Node.Event)}
    (honest : Honest complaints settings events) (visit : Visit Name)
    (within : visit.upTo <+: events) (context : SecurityContext)
    (dispatched : visit.Dispatched complaints settings context) :
    Provenant complaints settings visit context := by
  -- The induction is on how much of the run the visit has behind it.
  induction length : visit.before.length using Nat.strongRecOn generalizing visit context with
  | ind count inductionHypothesis =>
    have inherited : ∀ (earlier : Visit Name) context, earlier.upTo <+: visit.before →
        earlier.Dispatched complaints settings context →
          Provenant complaints settings earlier context := by
      intro earlier context happened earlierDispatched
      have shorter : earlier.before.length < count := by
        have least := happened.length_le
        rw [Visit.upTo, List.length_append, List.length_singleton] at least
        omega
      have earlierWithin : earlier.upTo <+: events :=
        happened.trans ((List.prefix_append _ _).trans within)
      exact inductionHypothesis _ shorter earlier earlierWithin context earlierDispatched rfl
    rcases or_assoc.2 (sender_of_dispatched (Visit.dispatched_iff.1 dispatched)) with
      sender | ⟨principal, caller⟩
    · exact provenant_of_takenAtItsWord sender
        (honest visit within (fromNodes_of_takenAtItsWord sender)) inherited dispatched
    · exact provenant_of_fromCaller caller dispatched

/-- A context whose origin is the transport is not locally authorized. -/
theorem isLocallyAuthorized_of_transport (origin : context.origin = some .transport) :
    context.isLocallyAuthorized = false := by
  simp [SecurityContext.isLocallyAuthorized, origin]

/-- In an honest run an identity in a dispatched context was authenticated at the address of the
context when the request entered, and a cursor that is created under the context is bound to the
identity. -/
theorem provenance_of_dispatched (complaints : HeaderValue.Complaints)
    (settings : Name → Settings) (events : List (Name × Node.Event))
    (honest : Honest complaints settings events) (visit : Visit Name)
    (within : visit.upTo <+: events) (context : SecurityContext)
    (dispatched : visit.Dispatched complaints settings context) (identity : Identity)
    (carried : context.identity = some identity) :
    (∃ entry : Visit Name, entry.upTo <+: visit.upTo ∧
        ∃ address, entry.Authenticates complaints settings identity address ∧
          context.remoteAddress = some address) ∧
      context.isLocallyAuthorized = false ∧
      CursorOwner.ofContext context = .identity (some identity) ∧
      ∀ (guard : Guard) (cursor : String), guard.cursors.owner? cursor = none →
        (guard.createCursor cursor context).cursors.owner? cursor =
          some (.identity (some identity)) := by
  obtain ⟨origin, entered⟩ := honest.provenant visit within context dispatched identity carried
  have notLocal := isLocallyAuthorized_of_transport origin
  have owner : CursorOwner.ofContext context = .identity (some identity) := by
    simp [CursorOwner.ofContext, notLocal, carried]
  refine ⟨entered, notLocal, owner, fun guard cursor unopened => ?_⟩
  change (guard.cursors.create cursor context).owner? cursor = _
  rw [CursorLedger.owner?_create, if_pos rfl, unopened, owner]
  rfl

/-- A caller enters at one node, is forgotten there by a reload, and is handed on to another
node: its identity still comes from where it entered. -/
theorem provenance_of_dispatched_handed_on :
    let settings : String → Settings := fun name =>
      if name = "first" then { authentication := ⟨[{ dn := "CN=kirk", user := "kirk" }]⟩ }
      else { transport := { nodesDn := ["CN=first"] } }
    let entering : Request :=
      { action := "indices:data/read/search", remoteAddress := some (.v4 ⟨10, 0, 0, 7⟩ 9300) }
    let caller : Channel := { type := some "netty", principal := some "CN=kirk" }
    let entered := deliveredContext entering "CN=kirk" .untrusted .transport
      (some { name := "kirk" }) entering.remoteAddress "TransportRequest"
    let handedOn : Request :=
      { action := "indices:data/read/search[query]"
        headers := Outbound.ofContext "cluster" entered }
    let node : Channel := { type := some "netty", principal := some "CN=first" }
    let before : List (String × Node.Event) :=
      [("first", .operation (.receive entering caller)), ("first", .reload {})]
    let visit : Visit String := ⟨before, "second", handedOn, node⟩
    Honest {} settings visit.upTo ∧ visit.upTo <+: visit.upTo ∧
      ∃ context, visit.Dispatched {} settings context ∧
        context.identity = some { name := "kirk" } ∧
        context.isLocallyAuthorized = false ∧
        ∃ entry : Visit String, entry.upTo <+: visit.upTo ∧
          ∃ address, entry.Authenticates {} settings { name := "kirk" } address ∧
            context.remoteAddress = some address := by
  intro settings entering caller entered handedOn node before visit
  have dispatched : (⟨[], "first", entering, caller⟩ : Visit String).Dispatched {} settings
      entered := by
    apply Visit.dispatched_iff.2
    decide
  have written : handedOn.headers.SamePrivate (Outbound.ofContext "cluster" entered) :=
    fun _ _ => rfl
  have honest : Honest {} settings visit.upTo := by
    rintro ⟨earlier, name, request, channel⟩ ⟨rest, whole⟩ fromNodes
    -- The request is the one that enters, which no node sends, or the one that is handed on.
    rcases earlier with _ | ⟨first, _ | ⟨second, _ | ⟨third, others⟩⟩⟩
    · simp only [Visit.upTo, visit, before, List.nil_append, List.cons_append, List.cons.injEq,
        Prod.mk.injEq, Node.Event.operation.injEq, Guard.Operation.receive.injEq] at whole
      obtain ⟨⟨rfl, rfl, rfl⟩, _⟩ := whole
      rcases fromNodes with direct | ⟨_, recognised⟩
      · simp [caller] at direct
      · exact absurd recognised (by decide)
    · simp [Visit.upTo, visit, before] at whole
    · simp only [Visit.upTo, visit, before, List.nil_append, List.cons_append, List.cons.injEq,
        Prod.mk.injEq, Node.Event.operation.injEq, Guard.Operation.receive.injEq] at whole
      obtain ⟨rfl, rfl, ⟨rfl, rfl, rfl⟩, _⟩ := whole
      exact .ofContext (List.prefix_append _ _) dispatched written
    · simp [Visit.upTo, visit, before] at whole
  have sender : TakenAtItsWord (visit.host {} settings).guard.policy visit.request visit.channel :=
    .inr ⟨"CN=first", rfl, rfl, rfl, by decide⟩
  obtain ⟨context, judged, arrived⟩ := sender.judge_ofContext written
  have again := Visit.dispatched_iff.2 judged
  obtain ⟨entry, notLocal, _⟩ := provenance_of_dispatched {} settings visit.upTo honest visit
    (List.prefix_refl _) context again { name := "kirk" } arrived.identity
  exact ⟨honest, List.prefix_refl _, context, again, arrived.identity, notLocal, entry⟩

end NodeGate
