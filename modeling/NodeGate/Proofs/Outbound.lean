import NodeGate.Outbound
import NodeGate.Proofs.Admission.Forwarded
import NodeGate.Proofs.HeaderValue

/-!
# What outbound headers say

The headers that carry a context on say its identity, its address and its origin, each of them or
nothing (`forwardedBy_ofContext`); the headers of a node's own request say only that the origin is
local (`forwardedBy_ofNode`). A receiver that looks at private headers alone reads the same.
-/

namespace NodeGate

/-- Two sets of headers agree on every private name, empty values included. -/
def Headers.SamePrivate (left right : Headers) : Prop :=
  ∀ name, Headers.isPrivate name = true → left.fields.get? name = right.fields.get? name

namespace Headers

/-- A private header says the same in headers that agree on private names. -/
theorem Conveys.of_samePrivate {Content : Type} {left right : Headers} {name : String}
    {Means : String → Content → Prop} {said : Option Content}
    (conveyed : right.Conveys name Means said) (same : left.SamePrivate right)
    (isPrivate : Headers.isPrivate name = true) : left.Conveys name Means said := by
  have agree := same name isPrivate
  cases conveyed with
  | nothing silent => exact .nothing (by rwa [agree])
  | content stored nonempty meaning => exact .content (by rwa [agree]) nonempty meaning

/-- Setting a header that had no value, where there is something to set it to, gives it that
value and no other header anything. -/
theorem get?_insert? {headers : Headers} {name : String} (absent : headers.get? name = none)
    (other : String) (value : Option String) :
    (headers.insert? name value).get? other =
      if other = name then value.filter (· ≠ "") else headers.get? other := by
  cases value with
  | none =>
      by_cases same : other = name
      · rw [if_pos same, same]
        exact absent
      · rw [if_neg same]
        rfl
  | some value => exact get?_insert headers name other value

/-- Setting a header, where there is something to set it to, leaves every other as it is stored. -/
theorem fields_insert?_of_ne (headers : Headers) {name other : String} (different : other ≠ name)
    (value : Option String) :
    (headers.insert? name value).fields.get? other = headers.fields.get? other := by
  cases value with
  | none => rfl
  | some value =>
      change (headers.fields.insert name value).get? other = _
      rw [NameMap.get?_insert, if_neg different]

end Headers

namespace Admission

/-- Headers that agree on private names forward the same. -/
theorem ForwardedBy.of_samePrivate {left right : Headers} {identity : Option Identity}
    {address : Option Address} {origin : Option Origin}
    (forwarded : ForwardedBy right identity address origin) (same : left.SamePrivate right) :
    ForwardedBy left identity address origin where
  identity := forwarded.identity.of_samePrivate same (by decide)
  address := forwarded.address.of_samePrivate same (by decide)
  origin := forwarded.origin.of_samePrivate same (by decide)

end Admission

namespace Outbound

open Admission

/-- A header that was set to the text of a content, where there is one, says the content. -/
theorem conveys_of_get? {Content : Type} {headers : Headers} {name : String}
    {Means : String → Content → Prop} {text : Content → String} {content : Option Content}
    (written : headers.get? name = (content.map text).filter (· ≠ ""))
    (nonempty : ∀ content, text content ≠ "") (meaning : ∀ content, Means (text content) content) :
    headers.Conveys name Means content := by
  cases content with
  | none => exact Headers.conveys_none_iff.2 written
  | some content =>
      have read : headers.get? name = some (text content) := by
        rw [written]
        simp [nonempty content]
      exact Headers.conveys_some_iff.2 ⟨text content, read, meaning content⟩

/-- Outbound headers without those of a context say nothing but the cluster. -/
theorem get?_base (cluster name : String) :
    (base cluster).get? name =
      if name = Headers.clusterName then (some cluster).filter (· ≠ "") else none := by
  rw [base, Headers.get?_insert]
  rfl

variable (cluster : String) (context : SecurityContext)

/-- Each part of a context has its header, and there is no other but that of the cluster. -/
theorem get?_ofContext (name : String) :
    (ofContext cluster context).get? name =
      if name = Headers.initialClassName then context.initialActionClass.filter (· ≠ "")
      else if name = Headers.originName then (context.origin.map (·.name)).filter (· ≠ "")
      else if name = Headers.remoteAddressName then
        (context.remoteAddress.map HeaderValue.encodeAddress).filter (· ≠ "")
      else if name = Headers.userName then
        (context.identity.map HeaderValue.encodeIdentity).filter (· ≠ "")
      else if name = Headers.clusterName then (some cluster).filter (· ≠ "")
      else none := by
  have user : (base cluster).get? Headers.userName = none := by
    rw [get?_base]
    rfl
  have address : ((base cluster).insert? Headers.userName
      (context.identity.map HeaderValue.encodeIdentity)).get? Headers.remoteAddressName =
        none := by
    rw [Headers.get?_insert? user, get?_base]
    rfl
  have origin : (((base cluster).insert? Headers.userName
      (context.identity.map HeaderValue.encodeIdentity)).insert? Headers.remoteAddressName
        (context.remoteAddress.map HeaderValue.encodeAddress)).get? Headers.originName =
          none := by
    rw [Headers.get?_insert? address, Headers.get?_insert? user, get?_base]
    rfl
  have initialClass : ((((base cluster).insert? Headers.userName
      (context.identity.map HeaderValue.encodeIdentity)).insert? Headers.remoteAddressName
        (context.remoteAddress.map HeaderValue.encodeAddress)).insert? Headers.originName
          (context.origin.map (·.name))).get? Headers.initialClassName = none := by
    rw [Headers.get?_insert? origin, Headers.get?_insert? address, Headers.get?_insert? user,
      get?_base]
    rfl
  rw [ofContext, Headers.get?_insert? initialClass, Headers.get?_insert? origin,
    Headers.get?_insert? address, Headers.get?_insert? user, get?_base]

/-- A context is carried on with its identity, its address and its origin. -/
theorem forwardedBy_ofContext :
    ForwardedBy (ofContext cluster context) context.identity context.remoteAddress
      context.origin where
  identity := conveys_of_get? (get?_ofContext cluster context Headers.userName)
    (fun _ => HeaderValue.wrap_ne_empty _) HeaderValue.decodeIdentity_encodeIdentity
  address := conveys_of_get? (get?_ofContext cluster context Headers.remoteAddressName)
    (fun _ => HeaderValue.wrap_ne_empty _) HeaderValue.decodeAddress_encodeAddress
  origin := conveys_of_get? (get?_ofContext cluster context Headers.originName)
    (fun origin => by cases origin <;> decide) fun _ => rfl

/-- The sending cluster is stored even where its name is empty. -/
theorem fields_ofContext_clusterName :
    (ofContext cluster context).fields.get? Headers.clusterName = some cluster := by
  rw [ofContext, Headers.fields_insert?_of_ne _ (by decide),
    Headers.fields_insert?_of_ne _ (by decide), Headers.fields_insert?_of_ne _ (by decide),
    Headers.fields_insert?_of_ne _ (by decide)]
  change (NameMap.empty.insert Headers.clusterName cluster).get? Headers.clusterName = _
  rw [NameMap.get?_insert, if_pos rfl]

/-- A context is carried on with its initial action class, where that has a name. -/
theorem conveys_initialClass_ofContext {initialClass : String} (named : initialClass ≠ "")
    (held : context.initialActionClass = some initialClass) :
    (ofContext cluster context).Conveys Headers.initialClassName
      (fun value content => content = value) (some initialClass) := by
  apply Headers.conveys_itself_iff.2
  rw [get?_ofContext, if_pos rfl, held, Option.filter_some, if_pos (by simpa using named)]

/-- A node's own request says that its origin is local, and nothing of a caller. -/
theorem forwardedBy_ofNode : ForwardedBy (ofNode cluster) none none (some .local) where
  identity := Headers.conveys_none_iff.2 (by
    simp [ofNode, Headers.get?_insert, get?_base, Headers.userName, Headers.originName,
      Headers.clusterName])
  address := Headers.conveys_none_iff.2 (by
    simp [ofNode, Headers.get?_insert, get?_base, Headers.remoteAddressName, Headers.originName,
      Headers.clusterName])
  origin := Headers.conveys_some_iff.2
    ⟨Origin.local.name, by simp [ofNode, Headers.get?_insert, Origin.name], rfl⟩

end Outbound

end NodeGate
