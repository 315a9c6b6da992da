import NodeGate.Channel
import NodeGate.Config.Settings
import NodeGate.DistinguishedName
import NodeGate.Pattern

/-!
# Recognising nodes

A verified peer is one of our nodes when its principal matches a configured pattern, both in
normalised spelling, or when its own certificate carries the configured marker. Nothing else of
the peer is looked at.
-/

namespace NodeGate

/-- The settings by which nodes are recognised. -/
structure NodeRecognition where
  patterns : List Pattern
  oid : Option String
  deriving DecidableEq, Repr

namespace NodeRecognition

/-- The recognition that settings ask for. -/
def ofSettings (settings : TransportSettings) : NodeRecognition where
  patterns := settings.nodesDn.map fun dn => ⟨DistinguishedName.normalize dn⟩
  oid := settings.certificateOid

/-- Whether the first peer certificate carries the marker. -/
def hasMarker (recognition : NodeRecognition) (peerCertificates : List Certificate) : Bool :=
  match recognition.oid, peerCertificates with
  | some oid, leaf :: _ => leaf.oids.contains oid
  | _, _ => false

/-- Whether a peer is one of our nodes. -/
def recognises (recognition : NodeRecognition) (peerCertificates : List Certificate)
    (principal : String) : Bool :=
  Pattern.anyMatch recognition.patterns (DistinguishedName.normalize principal) ||
    recognition.hasMarker peerCertificates

end NodeRecognition

end NodeGate
