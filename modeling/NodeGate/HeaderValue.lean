import NodeGate.Identity
import NodeGate.Address
import NodeGate.Base64Url

/-!
# Header values

Identities and addresses travel between nodes inside header values. A value is a version mark
followed by the base64 form of a JSON text. Only the version written here is read.
-/

namespace NodeGate.HeaderValue

open NodeGate.Text

/-- Why a header value does not decode. -/
inductive Fault where
  | version
  | base64 (fault : Base64Url.Fault)
  /-- The payload is no JSON text, or not one of what was expected. -/
  | payload (bytes : List UInt8)
  deriving DecidableEq, Repr

/-- The wording of a fault, given what the JSON reader says of a payload that it refuses. -/
def Fault.message (complaint : List UInt8 → String) : Fault → String
  | .version => "unsupported header encoding version"
  | .base64 fault => "invalid base64: " ++ fault.message
  | .payload bytes => "invalid payload: " ++ complaint bytes

/-- What the JSON reader says of the payloads that it refuses, for each kind of content. It is no
part of this library; a reader that is not given says nothing. -/
structure Complaints where
  identity : List UInt8 → String := fun _ => ""
  address : List UInt8 → String := fun _ => ""

/-- The mark of the version. -/
def versionMark : List Char := ['v', '1', '.']

/-- The value that carries a payload. -/
def wrap (payload : List UInt8) : String :=
  String.ofList
    (versionMark ++ (Base64Url.encode payload).map fun symbol => Char.ofNat symbol.toNat)

/-- The payload of a value. -/
def unwrap (value : String) : Except Fault (List UInt8) :=
  match value.toList with
  | 'v' :: '1' :: '.' :: body => (Base64Url.decode (Utf8.encode body)).mapError .base64
  | _ => .error .version

/-- What the payload of a value is read as. -/
def decodeWith {Content : Type} (read : List UInt8 → Option Content) (value : String) :
    Except Fault Content :=
  match unwrap value with
  | .error fault => .error fault
  | .ok payload =>
    match read payload with
    | some content => .ok content
    | none => .error (.payload payload)

/-- The identity of a JSON text. -/
def readIdentity (payload : List UInt8) : Option Identity :=
  (Json.read payload).bind Identity.ofTree?

/-- The address in a JSON text, which is a string. -/
def readAddress (payload : List UInt8) : Option Address := do
  Address.read (← Identity.readText (← Json.read payload))

/-- The value that carries an identity. -/
def encodeIdentity (identity : Identity) : String :=
  wrap identity.toTree.write

/-- The identity that a value carries. -/
def decodeIdentity (value : String) : Except Fault Identity :=
  decodeWith readIdentity value

/-- The value that carries an address. -/
def encodeAddress (address : Address) : String :=
  wrap (Identity.textTree address.write).write

/-- The address that a value carries. -/
def decodeAddress (value : String) : Except Fault Address :=
  decodeWith readAddress value

end NodeGate.HeaderValue
