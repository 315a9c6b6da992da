import NodeGate.Text.Blank
import NodeGate.Text.Split

/-!
# Distinguished names

A certificate names its subject by a comma-separated list of components such as CN=node-1. The
same name may be spelled with blanks around the commas and around the first equals sign of a
component; `DistinguishedName.normalize` removes exactly those. Letter case is kept.
-/

namespace NodeGate.DistinguishedName

open NodeGate.Text

/-- One component without the blanks at its ends and around its first equals sign. -/
def normalizeComponent (component : List Char) : List Char :=
  match component.dropWhile (· ≠ '=') with
  | [] => trim component
  | sign :: value => trim (component.takeWhile (· ≠ '=')) ++ sign :: trim value

/-- A name with every component normalised. -/
def normalizeChars (name : List Char) : List Char :=
  join ',' ((split ',' name).map normalizeComponent)

/-- The spelling under which two names are compared. -/
def normalize (name : String) : String :=
  String.ofList (normalizeChars name.toList)

end NodeGate.DistinguishedName
