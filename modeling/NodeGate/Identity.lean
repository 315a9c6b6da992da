import NodeGate.NameSet
import NodeGate.Json.Tree
import NodeGate.Text.Quoted

/-!
# Identities

An identity is an authenticated caller: a name, a set of backend roles and attributes. Two
identities are equal only if all three are. Inside a header an identity is a JSON object;
`toTree` gives the one object that is written and `ofTree?` accepts every object that says the
same, with unknown members skipped, and also an array of the three fields.
-/

namespace NodeGate

/-- An authenticated caller. -/
structure Identity where
  name : String
  backendRoles : NameSet := NameSet.empty
  attributes : NameMap String := NameMap.empty
  deriving DecidableEq, Repr

namespace Identity

open NodeGate.Json

/-- The identity with every role of a list added. -/
def withBackendRoles (identity : Identity) (roles : List String) : Identity :=
  { identity with backendRoles := identity.backendRoles.insertAll roles }

/-- The identity with one attribute set. -/
def withAttribute (identity : Identity) (key value : String) : Identity :=
  { identity with attributes := identity.attributes.insert key value }

/-- The line that stands for an identity in logs. The name is written as it is and the roles are
quoted. -/
def describe (identity : Identity) : String :=
  let roles := ", ".intercalate (identity.backendRoles.toList.map Text.quote)
  "User [name=" ++ identity.name ++ ", backend_roles=\x7b" ++ roles ++ "\x7d]"

/-- The tree of a text. -/
def textTree (text : String) : Tree :=
  .string (spellString text)

/-- The member of the backend roles, left out when there are none. -/
def rolesMember (roles : NameSet) : List (List UInt8 × Tree) :=
  if roles.isEmpty then []
  else [(spellString "backend_roles", .array (roles.toList.map textTree))]

/-- The member of the attributes, left out when there are none. -/
def attributesMember (attributes : NameMap String) : List (List UInt8 × Tree) :=
  if attributes.isEmpty then []
  else
    [(spellString "attributes",
      .object (attributes.entries.map fun entry => (spellString entry.1, textTree entry.2)))]

/-- The object that an identity is written as. -/
def toTree (identity : Identity) : Tree :=
  .object ((spellString "name", textTree identity.name) ::
    rolesMember identity.backendRoles ++ attributesMember identity.attributes)

/-- The text of a string. -/
def readText : Tree → Option String
  | .string spelling => unspellString spelling
  | _ => none

/-- The set of an array of strings. -/
def readRoles : Tree → Option NameSet
  | .array items => (items.mapM readText).map NameSet.ofList
  | _ => none

/-- The map of an object of strings; the last value of a key wins. -/
def readAttributes : Tree → Option (NameMap String)
  | .object members => do
    let pairs ← members.mapM fun member => do
      return (← unspellString member.1, ← readText member.2)
    return NameMap.ofList pairs
  | _ => none

/-- What an object says under a key: nothing, a value, or `none` when the key stands twice. -/
def soleMember (key : String) (members : List (String × Tree)) : Option (Option Tree) :=
  match members.filter (·.1 = key) with
  | [] => some none
  | [member] => some (some member.2)
  | _ => none

/-- The identity of a tree. -/
def ofTree? : Tree → Option Identity
  | .object members => do
    let members ← members.mapM fun member => do return (← unspellString member.1, member.2)
    let name ← readText (← ← soleMember "name" members)
    let roles ← match ← soleMember "backend_roles" members with
      | none => some NameSet.empty
      | some tree => readRoles tree
    let attributes ← match ← soleMember "attributes" members with
      | none => some NameMap.empty
      | some tree => readAttributes tree
    return ⟨name, roles, attributes⟩
  | .array [name] => do return ⟨← readText name, NameSet.empty, NameMap.empty⟩
  | .array [name, roles] => do return ⟨← readText name, ← readRoles roles, NameMap.empty⟩
  | .array [name, roles, attributes] => do
    return ⟨← readText name, ← readRoles roles, ← readAttributes attributes⟩
  | _ => none

end Identity

end NodeGate
