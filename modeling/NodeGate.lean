import NodeGate.CommandLine
import NodeGate.Main
import NodeGate.Proofs.Admission.LocalAuthority
import NodeGate.Proofs.Admission.Precedence
import NodeGate.Proofs.Admission.Relay
import NodeGate.Proofs.Admission.Untrusted
import NodeGate.Proofs.Books.Balance
import NodeGate.Proofs.Fleet.Provenance
import NodeGate.Proofs.ProtectedIndex.Exclusion
import NodeGate.Proofs.Reload.Refinement
import NodeGate.Proofs.Reload.Spelling
import NodeGate.Session
import NodeGate.Shutdown
import NodeGate.Proofs.Pattern.Language
import NodeGate.Proofs.Pattern.Loop
import NodeGate.Proofs.ProtectedIndex.ClosedActions
import NodeGate.Proofs.Reload.Principals
import NodeGate.Proofs.Address.TextForm
import NodeGate.Proofs.Reload.Trust
import NodeGate.Proofs.HeaderValue.Canonical
import NodeGate.Proofs.HeaderValue.Spelling
import NodeGate.Proofs.Admission.Record
import NodeGate.Proofs.ProtectedIndex.Settled
import NodeGate.Proofs.DistinguishedName.Canonical
import NodeGate.Proofs.Identity.Building
import NodeGate.Proofs.InFlight.Holders
import NodeGate.Proofs.Headers.History
import NodeGate.Proofs.Config.Validation
import NodeGate.Proofs.Config.Written
