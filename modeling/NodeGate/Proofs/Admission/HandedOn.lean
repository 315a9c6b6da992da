import NodeGate.Proofs.Admission.Law
import NodeGate.Proofs.Outbound

/-!
# Requests that nodes hand on

A request of the node itself or of a recognised node is dispatched with what its private headers
say, whatever else it carries. Where they are the headers of a context, the identity, the address
and the origin of that context arrive unchanged (`handedOn_ofContext`).
-/

namespace NodeGate.Admission

variable {policy : Policy} {request : Request} {channel : Channel}

/-- The sender is taken at its word: it is the node itself or a recognised node. -/
def TakenAtItsWord (policy : Policy) (request : Request) (channel : Channel) : Prop :=
  FromItself channel ∨ ∃ principal, FromNode policy request channel principal

/-- A context holds what was handed on, as far as anything was. -/
structure HandedOn (identity : Option Identity) (address : Option Address)
    (origin : Option Origin) (context : SecurityContext) : Prop where
  identity : context.identity = identity
  address : ∀ given, address = some given → context.remoteAddress = some given
  origin : ∀ given, origin = some given → context.origin = some given

/-- A sender that is taken at its word has its request dispatched with what its headers say. -/
theorem TakenAtItsWord.judge_dispatched (sender : TakenAtItsWord policy request channel)
    {identity : Option Identity} {address : Option Address} {origin : Option Origin}
    (forwarded : ForwardedBy request.headers identity address origin) :
    ∃ context, judge policy request channel = .dispatched context ∧
      HandedOn identity address origin context := by
  rcases sender with itself | ⟨principal, node⟩
  · have taken : takeForwarded policy.complaints request none (directContext request) = .ok _ :=
      takeForwarded_of_forwardedBy forwarded
    rw [itself.judge_eq, taken]
    refine ⟨_, rfl, ?_, ?_, ?_⟩
    · cases identity <;> rfl
    · rintro given rfl
      rfl
    · rintro given rfl
      rfl
  · have dispatched := node.judge_dispatched_iff.2
      ⟨identity, address, origin, forwarded, rfl⟩
    refine ⟨_, dispatched, rfl, ?_, ?_⟩
    · rintro given rfl
      rfl
    · rintro given rfl
      rfl

/-- A sender that is taken at its word is believed about the action class that the chain began
with. -/
theorem TakenAtItsWord.initialActionClass_eq (sender : TakenAtItsWord policy request channel)
    {context : SecurityContext} (dispatched : judge policy request channel = .dispatched context) :
    context.initialActionClass =
      some ((request.headers.get? Headers.initialClassName).getD request.payload.logicalClass) := by
  rcases sender with itself | ⟨principal, node⟩
  · rw [itself.judge_eq] at dispatched
    cases taken : takeForwarded policy.complaints request none (directContext request) with
    | error refusal => simp [taken] at dispatched
    | ok context' =>
        obtain ⟨identity, address, origin, forwarded⟩ := exists_forwardedBy_of_takeForwarded taken
        rw [takeForwarded_of_forwardedBy forwarded] at dispatched
        cases dispatched
        rfl
  · obtain ⟨identity, address, origin, _, rfl⟩ := node.judge_dispatched_iff.1 dispatched
    rfl

/-- A node is trusted according to the cluster that it names. -/
theorem FromNode.trust_eq {principal : String} (sender : FromNode policy request channel principal)
    {context : SecurityContext} (dispatched : judge policy request channel = .dispatched context) :
    context.trust = some (nodeTrust policy (request.headers.get? Headers.clusterName)) := by
  obtain ⟨identity, address, origin, _, rfl⟩ := sender.judge_dispatched_iff.1 dispatched
  rfl

/-- The headers of a context hand on its identity, its address and its origin. -/
theorem TakenAtItsWord.judge_ofContext (sender : TakenAtItsWord policy request channel)
    {cluster : String} {earlier : SecurityContext}
    (written : request.headers.SamePrivate (Outbound.ofContext cluster earlier)) :
    ∃ context, judge policy request channel = .dispatched context ∧
      HandedOn earlier.identity earlier.remoteAddress earlier.origin context :=
  sender.judge_dispatched
    ((Outbound.forwardedBy_ofContext cluster earlier).of_samePrivate written)

/-- The headers of a node's own request hand on no identity. -/
theorem TakenAtItsWord.judge_ofNode (sender : TakenAtItsWord policy request channel)
    {cluster : String} (written : request.headers.SamePrivate (Outbound.ofNode cluster)) :
    ∃ context, judge policy request channel = .dispatched context ∧
      HandedOn none none (some .local) context :=
  sender.judge_dispatched ((Outbound.forwardedBy_ofNode cluster).of_samePrivate written)

/-- A request without private headers hands on nothing. -/
theorem TakenAtItsWord.judge_unforged (sender : TakenAtItsWord policy request channel)
    (unforged : Unforged request.headers) :
    ∃ context, judge policy request channel = .dispatched context ∧
      HandedOn none none none context :=
  sender.judge_dispatched
    { identity := Headers.conveys_none_iff.2 (unforged.get?_eq_none (by decide))
      address := Headers.conveys_none_iff.2 (unforged.get?_eq_none (by decide))
      origin := Headers.conveys_none_iff.2 (unforged.get?_eq_none (by decide)) }

end NodeGate.Admission
