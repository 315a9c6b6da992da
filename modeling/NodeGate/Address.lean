import NodeGate.Text.Digits
import NodeGate.Text.Split

/-!
# Socket addresses

The address of a peer: an IPv4 or IPv6 host with a port, and for IPv6 a scope. `Address.write`
gives the one text form and `Address.read` accepts every spelling of it: leading zeros in a port
or a group, capital hexadecimal digits, a double colon for one or more zero groups at any place,
and a dotted tail. A reader takes what it understands from the front of a text and returns what is
left.
-/

namespace NodeGate

/-- The four octets of an IPv4 host. -/
structure Ipv4 where
  first : UInt8
  second : UInt8
  third : UInt8
  fourth : UInt8
  deriving DecidableEq, Repr

/-- The eight groups of an IPv6 host. -/
structure Ipv6 where
  groups : List UInt16
  length_eq : groups.length = 8
  deriving DecidableEq, Repr

/-- A host with a port. An IPv6 host has a scope, which is zero when none is meant. -/
inductive Address where
  | v4 (host : Ipv4) (port : UInt16)
  | v6 (host : Ipv6) (port : UInt16) (scope : UInt32)
  deriving DecidableEq, Repr

namespace Address

open NodeGate.Text

/-- A decimal numeral without leading zeros. -/
def writeDecimal (value : Nat) : List Char :=
  Nat.toDigits 10 value

/-- The dotted form of an IPv4 host. -/
def writeIpv4 (host : Ipv4) : List Char :=
  join '.' [writeDecimal host.first.toNat, writeDecimal host.second.toNat,
    writeDecimal host.third.toNat, writeDecimal host.fourth.toNat]

/-- Groups in lower-case hexadecimal with colons between them. -/
def writeGroups (groups : List UInt16) : List Char :=
  join ':' (groups.map fun group => Nat.toDigits 16 group.toNat)

/-- Where the first longest run of zero groups begins, and its length. -/
def longestZeroRun : List UInt16 → Nat × Nat
  | [] => (0, 0)
  | group :: rest =>
    let later := longestZeroRun rest
    let here := ((group :: rest).takeWhile (· = 0)).length
    if later.2 ≤ here then (0, here) else (later.1 + 1, later.2)

/-- The text of eight groups: the first longest run of two or more zero groups is written as a
double colon. -/
def writeCompressed (groups : List UInt16) : List Char :=
  let run := longestZeroRun groups
  if 2 ≤ run.2 then
    writeGroups (groups.take run.1) ++ ':' :: ':' :: writeGroups (groups.drop (run.1 + run.2))
  else writeGroups groups

/-- The text of an IPv6 host. An IPv4 host mapped into IPv6 keeps its dotted form. -/
def writeIpv6 (host : Ipv6) : List Char :=
  match host.groups with
  | [0, 0, 0, 0, 0, 0xffff, high, low] =>
    "::ffff:".toList ++ writeIpv4
      ⟨(high / 256).toUInt8, high.toUInt8, (low / 256).toUInt8, low.toUInt8⟩
  | groups => writeCompressed groups

/-- The text of an address as characters. -/
def writeChars : Address → List Char
  | .v4 host port => writeIpv4 host ++ ':' :: writeDecimal port.toNat
  | .v6 host port scope =>
    let scopeText := if scope = 0 then [] else '%' :: writeDecimal scope.toNat
    '[' :: writeIpv6 host ++ scopeText ++ ']' :: ':' :: writeDecimal port.toNat

/-- The text of an address. -/
def write (address : Address) : String :=
  String.ofList address.writeChars

/-- Take one given character. -/
def readChar (expected : Char) : List Char → Option (List Char)
  | [] => none
  | char :: rest => if char = expected then some rest else none

/-- A decimal numeral of any length below a limit. -/
def readDecimal (limit : Nat) (text : List Char) : Option (Nat × List Char) :=
  let (digits, rest) := spanDigits 10 text
  let value := numeralValue 10 digits
  if digits ≠ [] ∧ value < limit then some (value, rest) else none

/-- An octet has at most three digits and no leading zero. -/
def readOctet (text : List Char) : Option (UInt8 × List Char) :=
  let (digits, rest) := spanDigits 10 text
  let value := numeralValue 10 digits
  if digits ≠ [] ∧ digits.length ≤ 3 ∧ (digits.head? = some '0' → digits.length = 1)
      ∧ value < 256 then
    some (UInt8.ofNat value, rest)
  else none

/-- Four octets with points between them. -/
def readIpv4 (text : List Char) : Option (Ipv4 × List Char) := do
  let (first, text) ← readOctet text
  let (second, text) ← readOctet (← readChar '.' text)
  let (third, text) ← readOctet (← readChar '.' text)
  let (fourth, text) ← readOctet (← readChar '.' text)
  return (⟨first, second, third, fourth⟩, text)

/-- A group has one to four hexadecimal digits. -/
def readGroup (text : List Char) : Option (UInt16 × List Char) :=
  let (digits, rest) := spanDigits 16 text
  if digits ≠ [] ∧ digits.length ≤ 4 then
    some (UInt16.ofNat (numeralValue 16 digits), rest)
  else none

/-- Before every group but the first stands a colon. -/
def readSeparator (isFirst : Bool) (text : List Char) : Option (List Char) :=
  if isFirst then some text else readChar ':' text

/-- What a run of groups held. -/
structure GroupRun where
  groups : List UInt16
  /-- The run ended with a dotted IPv4 tail, which fills two groups. -/
  dotted : Bool
  rest : List Char

/-- As many groups as there are, up to a limit. A dotted tail is tried before each group while
there is room for two. -/
def readGroups : Nat → Bool → List Char → GroupRun
  | 0, _, text => ⟨[], false, text⟩
  | room + 1, isFirst, text =>
    match (if room = 0 then none else (readSeparator isFirst text).bind readIpv4) with
    | some (host, rest) =>
      ⟨[host.first.toUInt16 * 256 + host.second.toUInt16,
        host.third.toUInt16 * 256 + host.fourth.toUInt16], true, rest⟩
    | none =>
      match (readSeparator isFirst text).bind readGroup with
      | some (group, rest) =>
        let others := readGroups room false rest
        ⟨group :: others.groups, others.dotted, others.rest⟩
      | none => ⟨[], false, text⟩

/-- Eight groups become a host. -/
def hostOfGroups (groups : List UInt16) : Option Ipv6 :=
  if whole : groups.length = 8 then some ⟨groups, whole⟩ else none

/-- Eight groups, or fewer with a double colon for one or more zero groups. -/
def readIpv6 (text : List Char) : Option (Ipv6 × List Char) := do
  let head := readGroups 8 true text
  if head.groups.length = 8 then
    return (← hostOfGroups head.groups, head.rest)
  if head.dotted then
    none
  let tailText ← readChar ':' (← readChar ':' head.rest)
  let tail := readGroups (7 - head.groups.length) true tailText
  let zeros := List.replicate (8 - head.groups.length - tail.groups.length) 0
  return (← hostOfGroups (head.groups ++ zeros ++ tail.groups), tail.rest)

/-- A percent sign and a decimal scope, or nothing. -/
def readScope (text : List Char) : UInt32 × List Char :=
  match readChar '%' text with
  | none => (0, text)
  | some rest =>
    match readDecimal 4294967296 rest with
    | none => (0, text)
    | some (scope, rest) => (UInt32.ofNat scope, rest)

/-- A port and then the end of the text. -/
def readPort (text : List Char) : Option UInt16 := do
  let (port, rest) ← readDecimal 65536 text
  if rest = [] then some (UInt16.ofNat port) else none

/-- A dotted host with a port. -/
def readV4 (text : List Char) : Option Address := do
  let (host, rest) ← readIpv4 text
  return .v4 host (← readPort (← readChar ':' rest))

/-- A bracketed host with a port. -/
def readV6 (text : List Char) : Option Address := do
  let (host, rest) ← readIpv6 (← readChar '[' text)
  let (scope, rest) := readScope rest
  return .v6 host (← readPort (← readChar ':' (← readChar ']' rest))) scope

/-- The address that characters write. -/
def readChars (text : List Char) : Option Address :=
  readV4 text <|> readV6 text

/-- The address that a text writes. -/
def read (text : String) : Option Address :=
  readChars text.toList

end Address

end NodeGate
