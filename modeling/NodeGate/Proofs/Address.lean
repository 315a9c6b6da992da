import NodeGate.Address
import NodeGate.Proofs.Text.Numeral

/-!
# Addresses survive their text

The text of an address is read as the same address (`read_write`). Each reader is shown to take
the text of its part from the front of a longer one and to stop behind it, so that the parts can
be put together: octets into an IPv4 host, groups with or without a double colon into an IPv6
host, a scope and a port.
-/

namespace NodeGate.Address

open NodeGate.Text

/-- The digits of a number below the limit are read as the number. -/
theorem readDecimal_writeDecimal {limit number : Nat} (below : number < limit)
    {rest : List Char} (ends : EndsNumeral 10 rest) :
    readDecimal limit (writeDecimal number ++ rest) = some (number, rest) := by
  have spanned := spanDigits_toDigits_append (by omega) (by omega) number ends
  have value : numeralValue 10 (Nat.toDigits 10 number) = number :=
    numeralValue_toDigits (by omega) (by omega) number
  simp only [readDecimal, writeDecimal, spanned, value]
  exact if_pos ⟨Nat.toDigits_ne_nil, below⟩

/-- The digits of an octet are read as the octet. -/
theorem readOctet_writeDecimal (octet : UInt8) {rest : List Char} (ends : EndsNumeral 10 rest) :
    readOctet (writeDecimal octet.toNat ++ rest) = some (octet, rest) := by
  have below : octet.toNat < 256 := octet.toNat_lt
  have short : (Nat.toDigits 10 octet.toNat).length ≤ 3 :=
    (Nat.length_toDigits_le_iff (by omega) (by omega)).2 (by omega)
  have leading : (Nat.toDigits 10 octet.toNat).head? = some '0' →
      (Nat.toDigits 10 octet.toNat).length = 1 := by
    intro zero
    rcases Nat.eq_zero_or_pos octet.toNat with isZero | positive
    · rw [isZero]
      rfl
    · exact absurd zero (head?_toDigits_ne_zero (by omega) (by omega) positive)
  have spanned := spanDigits_toDigits_append (by omega) (by omega) octet.toNat ends
  have value : numeralValue 10 (Nat.toDigits 10 octet.toNat) = octet.toNat :=
    numeralValue_toDigits (by omega) (by omega) octet.toNat
  simp only [readOctet, writeDecimal, spanned, value]
  rw [if_pos ⟨Nat.toDigits_ne_nil, short, leading, below⟩, UInt8.ofNat_toNat]

/-- The digits of a group are read as the group. -/
theorem readGroup_toDigits (group : UInt16) {rest : List Char} (ends : EndsNumeral 16 rest) :
    readGroup (Nat.toDigits 16 group.toNat ++ rest) = some (group, rest) := by
  have below : group.toNat < 65536 := group.toNat_lt
  have short : (Nat.toDigits 16 group.toNat).length ≤ 4 :=
    (Nat.length_toDigits_le_iff (by omega) (by omega)).2 (by omega)
  have spanned := spanDigits_toDigits_append (by omega) (by omega) group.toNat ends
  have value : numeralValue 16 (Nat.toDigits 16 group.toNat) = group.toNat :=
    numeralValue_toDigits (by omega) (by omega) group.toNat
  simp only [readGroup, spanned, value]
  rw [if_pos ⟨Nat.toDigits_ne_nil, short⟩, UInt16.ofNat_toNat]

/-- A point ends a decimal numeral. -/
theorem endsNumeral_point (rest : List Char) : EndsNumeral 10 ('.' :: rest) :=
  endsNumeral_cons (by decide) rest

/-- The dotted form of a host is read as the host. -/
theorem readIpv4_writeIpv4 (host : Ipv4) {rest : List Char} (ends : EndsNumeral 10 rest) :
    readIpv4 (writeIpv4 host ++ rest) = some (host, rest) := by
  simp only [writeIpv4, join, List.append_assoc, List.cons_append, readIpv4]
  simp only [readOctet_writeDecimal _ (endsNumeral_point _), readOctet_writeDecimal _ ends,
    readChar, Option.bind_eq_bind, Option.bind_some, if_true]
  rfl

/-- Behind an octet stands what follows the leading digits. -/
theorem rest_of_readOctet {text rest : List Char} {octet : UInt8}
    (taken : readOctet text = some (octet, rest)) : rest = text.dropWhile (isDigitOf 10) := by
  unfold readOctet spanDigits at taken
  have fits := Option.ite_none_right_eq_some.1 taken
  cases fits.2
  rfl

/-- Where no point stands behind the leading digits, there is no dotted host. -/
theorem readIpv4_eq_none {text : List Char}
    (noPoint : (text.dropWhile (isDigitOf 10)).head? ≠ some '.') : readIpv4 text = none := by
  cases taken : readOctet text with
  | none => simp [readIpv4, taken]
  | some found =>
      obtain ⟨octet, rest⟩ := found
      have stuck : readChar '.' rest = none := by
        rw [← rest_of_readOctet taken] at noPoint
        cases rest with
        | nil => rfl
        | cons char behind =>
            have different : char ≠ '.' := fun same => noPoint (congrArg some same)
            exact if_neg different
      simp [readIpv4, taken, stuck]

/-- Groups with a colon before each. -/
def writeFollowing (groups : List UInt16) : List Char :=
  groups.flatMap fun group => ':' :: Nat.toDigits 16 group.toNat

/-- Groups are written as the first one and the others behind it. -/
theorem writeGroups_cons (group : UInt16) (others : List UInt16) :
    writeGroups (group :: others) = Nat.toDigits 16 group.toNat ++ writeFollowing others := by
  induction others generalizing group with
  | nil => simp [writeGroups, writeFollowing, join]
  | cons next others inductionHypothesis =>
    have later := inductionHypothesis next
    simp only [writeGroups, List.map_cons] at later
    simp only [writeGroups, List.map_cons, join, writeFollowing, List.flatMap_cons]
    rw [later]
    rfl

/-- A text does not go on with a point, nor with a digit of a group. -/
structure EndsGroup (rest : List Char) : Prop where
  noDigit : EndsNumeral 16 rest
  noPoint : rest.head? ≠ some '.'

/-- A colon ends a group. -/
theorem endsGroup_colon (rest : List Char) : EndsGroup (':' :: rest) where
  noDigit := endsNumeral_cons (by decide) rest
  noPoint := by simp

/-- What follows a group ends it, when what is behind all groups does. -/
theorem endsGroup_writeFollowing (groups : List UInt16) {rest : List Char}
    (ends : EndsGroup rest) : EndsGroup (writeFollowing groups ++ rest) := by
  cases groups with
  | nil => exact ends
  | cons group others => exact endsGroup_colon _

/-- A point stands nowhere at the front of the digits of a group. -/
theorem readIpv4_toDigits (group : UInt16) {rest : List Char} (ends : EndsGroup rest) :
    readIpv4 (Nat.toDigits 16 group.toNat ++ rest) = none := by
  have digits : ∀ char ∈ Nat.toDigits 16 group.toNat, isDigitOf 16 char = true :=
    isDigitOf_of_mem_toDigits (by omega) (by omega) group.toNat
  apply readIpv4_eq_none
  -- The point would be a digit of the group or stand right behind it.
  generalize Nat.toDigits 16 group.toNat = text at digits
  induction text with
  | nil =>
    have ends10 : EndsNumeral 10 rest := ends.noDigit.of_le (by omega)
    rw [List.nil_append, ends10.dropWhile_eq]
    exact ends.noPoint
  | cons char others inductionHypothesis =>
    rw [List.cons_append, List.dropWhile_cons]
    split
    · exact inductionHypothesis fun other member => digits other (List.mem_cons_of_mem _ member)
    · intro point
      have isPoint : char = '.' := by simpa using point
      have isDigit := digits char List.mem_cons_self
      rw [isPoint] at isDigit
      exact absurd isDigit (by decide)

/-- Neither a group nor a dotted host stands at the front of a text. -/
structure EndsRun (isFirst : Bool) (rest : List Char) : Prop where
  noHost : (readSeparator isFirst rest).bind readIpv4 = none
  noGroup : (readSeparator isFirst rest).bind readGroup = none

/-- Where nothing of a run stands, none of it is read. -/
theorem readGroups_of_endsRun (room : Nat) {isFirst : Bool} {rest : List Char}
    (ends : EndsRun isFirst rest) : readGroups room isFirst rest = ⟨[], false, rest⟩ := by
  cases room with
  | zero => rfl
  | succ room => simp only [readGroups, ends.noHost, ends.noGroup, ite_self]

/-- A group at the front of a text is read, and then the others. -/
theorem readGroups_group (room : Nat) {isFirst : Bool} {text behind : List Char}
    {group : UInt16}
    (separated : readSeparator isFirst text = some (Nat.toDigits 16 group.toNat ++ behind))
    (ends : EndsGroup behind) :
    readGroups (room + 1) isFirst text =
      ⟨group :: (readGroups room false behind).groups, (readGroups room false behind).dotted,
        (readGroups room false behind).rest⟩ := by
  simp only [readGroups, separated, Option.bind_some, readIpv4_toDigits group ends, ite_self,
    readGroup_toDigits group ends.noDigit]

/-- Following groups are read to the last one, where there is room for them and either no more
room or no more groups. -/
theorem readGroups_writeFollowing {groups : List UInt16} {room : Nat} {rest : List Char}
    (fits : groups.length ≤ room) (ends : EndsGroup rest)
    (stops : groups.length = room ∨ EndsRun false rest) :
    readGroups room false (writeFollowing groups ++ rest) = ⟨groups, false, rest⟩ := by
  induction groups generalizing room with
  | nil =>
    rcases stops with full | endsRun
    · cases full
      rfl
    · exact readGroups_of_endsRun room endsRun
  | cons group others inductionHypothesis =>
    cases room with
    | zero => simp at fits
    | succ room =>
      have later : readGroups room false (writeFollowing others ++ rest) =
          ⟨others, false, rest⟩ := by
        apply inductionHypothesis (by simpa using fits)
        exact stops.imp_left fun full => by simpa using full
      have separated : readSeparator false (writeFollowing (group :: others) ++ rest) =
          some (Nat.toDigits 16 group.toNat ++ (writeFollowing others ++ rest)) := by
        simp [readSeparator, readChar, writeFollowing]
      rw [readGroups_group room separated (endsGroup_writeFollowing others ends), later]

/-- Groups are read to the last one, where there is room for them and either no more room or no
more groups. -/
theorem readGroups_writeGroups {groups : List UInt16} {room : Nat} {rest : List Char}
    (fits : groups.length ≤ room) (ends : EndsGroup rest)
    (stops : groups.length = room ∨ ∀ isFirst, EndsRun isFirst rest) :
    readGroups room true (writeGroups groups ++ rest) = ⟨groups, false, rest⟩ := by
  cases groups with
  | nil =>
    rcases stops with full | endsRun
    · cases full
      rfl
    · exact readGroups_of_endsRun room (endsRun true)
  | cons group others =>
    cases room with
    | zero => simp at fits
    | succ room =>
      have later : readGroups room false (writeFollowing others ++ rest) =
          ⟨others, false, rest⟩ := by
        apply readGroups_writeFollowing (by simpa using fits) ends
        exact stops.imp (fun full => by simpa using full) fun endsRun => endsRun false
      have separated : readSeparator true (writeGroups (group :: others) ++ rest) =
          some (Nat.toDigits 16 group.toNat ++ (writeFollowing others ++ rest)) := by
        rw [writeGroups_cons, List.append_assoc]
        rfl
      rw [readGroups_group room separated (endsGroup_writeFollowing others ends), later]

/-- A double colon ends a run. -/
theorem endsRun_doubleColon (isFirst : Bool) (rest : List Char) :
    EndsRun isFirst (':' :: ':' :: rest) := by
  cases isFirst <;> constructor <;> rfl

/-- A text that may stand behind a host: a scope or the closing bracket. -/
def EndsHost (rest : List Char) : Prop :=
  rest.head? = some '%' ∨ rest.head? = some ']'

/-- What ends a host ends a group. -/
theorem EndsHost.endsGroup {rest : List Char} (ends : EndsHost rest) : EndsGroup rest := by
  cases rest with
  | nil => simp [EndsHost] at ends
  | cons char behind =>
    have which : char = '%' ∨ char = ']' := by simpa [EndsHost] using ends
    rcases which with rfl | rfl
    · exact ⟨endsNumeral_cons (by decide) behind, by simp⟩
    · exact ⟨endsNumeral_cons (by decide) behind, by simp⟩

/-- What ends a host ends a run of groups. -/
theorem EndsHost.endsRun {rest : List Char} (ends : EndsHost rest) (isFirst : Bool) :
    EndsRun isFirst rest := by
  cases rest with
  | nil => simp [EndsHost] at ends
  | cons char behind =>
    have which : char = '%' ∨ char = ']' := by simpa [EndsHost] using ends
    rcases which with rfl | rfl
    · cases isFirst <;> constructor <;> rfl
    · cases isFirst <;> constructor <;> rfl

/-- Eight groups without a double colon are read as they are. -/
theorem readIpv6_writeGroups (host : Ipv6) {rest : List Char} (ends : EndsHost rest) :
    readIpv6 (writeGroups host.groups ++ rest) = some (host, rest) := by
  have groups : readGroups 8 true (writeGroups host.groups ++ rest) =
      ⟨host.groups, false, rest⟩ :=
    readGroups_writeGroups (Nat.le_of_eq host.length_eq) ends.endsGroup (.inl host.length_eq)
  simp [readIpv6, groups, hostOfGroups, host.length_eq]

/-- A double colon stands for the zeros between what is before and what is read behind it. -/
theorem readIpv6_doubleColon (host : Ipv6) {before after : List UInt16} {zeros : Nat}
    (parts : host.groups = before ++ List.replicate zeros 0 ++ after) (positive : 0 < zeros)
    {tailText rest : List Char} {dotted : Bool}
    (tail : readGroups (7 - before.length) true tailText = ⟨after, dotted, rest⟩) :
    readIpv6 (writeGroups before ++ ':' :: ':' :: tailText) = some (host, rest) := by
  have counted : before.length + zeros + after.length = 8 := by
    rw [← host.length_eq, parts]
    simp [Nat.add_assoc]
  have head : readGroups 8 true (writeGroups before ++ ':' :: ':' :: tailText) =
      ⟨before, false, ':' :: ':' :: tailText⟩ :=
    readGroups_writeGroups (by omega) (endsGroup_colon _)
      (.inr fun isFirst => endsRun_doubleColon isFirst _)
  have notWhole : before.length ≠ 8 := by omega
  have left : 8 - before.length - after.length = zeros := by omega
  have whole : hostOfGroups (before ++ List.replicate zeros 0 ++ after) = some host := by
    rw [← parts, hostOfGroups, dif_pos host.length_eq]
  simp only [readIpv6, head, notWhole, readChar, tail, left, whole, if_true, if_false,
    Bool.false_eq_true, Option.bind_eq_bind, Option.bind_some]
  rfl

/-- The zeros at the front of groups are their first part. -/
theorem split_leadingZeros (groups : List UInt16) :
    groups = List.replicate (groups.takeWhile (· = 0)).length 0 ++
      groups.drop (groups.takeWhile (· = 0)).length := by
  have zeros : groups.takeWhile (· = 0) =
      List.replicate (groups.takeWhile (· = 0)).length 0 := by
    apply List.eq_replicate_iff.2
    refine ⟨rfl, fun group member => ?_⟩
    have zero := List.all_eq_true.1 List.all_takeWhile group member
    simpa using zero
  have front : groups.takeWhile (· = 0) = groups.take (groups.takeWhile (· = 0)).length :=
    List.prefix_iff_eq_take.1 (List.takeWhile_prefix _)
  calc
    groups = groups.take (groups.takeWhile (· = 0)).length ++
        groups.drop (groups.takeWhile (· = 0)).length := (List.take_append_drop _ groups).symm
    _ = _ := by rw [← front, ← zeros]

/-- The first longest run of zeros lies within the groups. -/
theorem split_longestZeroRun (groups : List UInt16) :
    groups = groups.take (longestZeroRun groups).1 ++
      List.replicate (longestZeroRun groups).2 0 ++
      groups.drop ((longestZeroRun groups).1 + (longestZeroRun groups).2) := by
  induction groups with
  | nil => rfl
  | cons group rest inductionHypothesis =>
    simp only [longestZeroRun]
    split
    · simpa using split_leadingZeros (group :: rest)
    · have reordered : (longestZeroRun rest).1 + 1 + (longestZeroRun rest).2 =
          (longestZeroRun rest).1 + (longestZeroRun rest).2 + 1 := by omega
      rw [reordered, List.take_succ_cons, List.drop_succ_cons]
      exact congrArg (group :: ·) inductionHypothesis

/-- The text of eight groups is read as a host of these groups. -/
theorem readIpv6_writeCompressed (host : Ipv6) {rest : List Char} (ends : EndsHost rest) :
    readIpv6 (writeCompressed host.groups ++ rest) = some (host, rest) := by
  simp only [writeCompressed]
  split
  · rename_i long
    have parts := split_longestZeroRun host.groups
    have tail : readGroups (7 - (host.groups.take (longestZeroRun host.groups).1).length) true
          (writeGroups (host.groups.drop
            ((longestZeroRun host.groups).1 + (longestZeroRun host.groups).2)) ++ rest) =
        ⟨host.groups.drop ((longestZeroRun host.groups).1 + (longestZeroRun host.groups).2),
          false, rest⟩ := by
      apply readGroups_writeGroups _ ends.endsGroup (.inr ends.endsRun)
      have counted := congrArg List.length parts
      rw [host.length_eq] at counted
      simp only [List.length_append, List.length_replicate] at counted
      omega
    rw [List.append_assoc, List.cons_append, List.cons_append]
    exact readIpv6_doubleColon host parts (by omega) tail
  · exact readIpv6_writeGroups host ends

/-- Two octets and the group that they fill. -/
theorem group_of_octets (group : UInt16) :
    group / 256 % 256 * 256 + group % 256 = group := by
  have below : group.toNat < 65536 := group.toNat_lt
  apply UInt16.toNat_inj.1
  simp only [UInt16.toNat_add, UInt16.toNat_mul, UInt16.toNat_mod, UInt16.toNat_div,
    UInt16.reduceToNat]
  omega

/-- A mapped IPv4 host is read from its dotted form as the two groups that it fills. -/
theorem readGroups_dotted (high low : UInt16) {rest : List Char} (ends : EndsHost rest) :
    readGroups 7 true ("ffff:".toList ++ (writeIpv4 ⟨(high / 256).toUInt8, high.toUInt8,
        (low / 256).toUInt8, low.toUInt8⟩ ++ rest)) = ⟨[0xffff, high, low], true, rest⟩ := by
  have ends10 : EndsNumeral 10 rest := ends.endsGroup.noDigit.of_le (by omega)
  have dotted : readGroups 6 false (':' :: (writeIpv4 ⟨(high / 256).toUInt8, high.toUInt8,
      (low / 256).toUInt8, low.toUInt8⟩ ++ rest)) = ⟨[high, low], true, rest⟩ := by
    simp [readGroups, readSeparator, readChar, readIpv4_writeIpv4 _ ends10, group_of_octets]
  have separated : readSeparator true ("ffff:".toList ++ (writeIpv4 ⟨(high / 256).toUInt8,
        high.toUInt8, (low / 256).toUInt8, low.toUInt8⟩ ++ rest)) =
      some (Nat.toDigits 16 (0xffff : UInt16).toNat ++ ':' :: (writeIpv4 ⟨(high / 256).toUInt8,
        high.toUInt8, (low / 256).toUInt8, low.toUInt8⟩ ++ rest)) := rfl
  rw [readGroups_group 6 separated (endsGroup_colon _), dotted]

/-- The text of a host is read as the host. -/
theorem readIpv6_writeIpv6 (host : Ipv6) {rest : List Char} (ends : EndsHost rest) :
    readIpv6 (writeIpv6 host ++ rest) = some (host, rest) := by
  unfold writeIpv6
  split
  · rename_i high low parts
    have around : host.groups = [] ++ List.replicate 5 0 ++ [0xffff, high, low] := parts
    rw [List.append_assoc]
    exact readIpv6_doubleColon host around (by decide) (readGroups_dotted high low ends)
  · exact readIpv6_writeCompressed host ends

/-- The scope of a host as it stands behind the host. -/
def writeScope (scope : UInt32) : List Char :=
  if scope = 0 then [] else '%' :: writeDecimal scope.toNat

/-- Behind a host stands a scope or the closing bracket. -/
theorem endsHost_writeScope (scope : UInt32) (rest : List Char) :
    EndsHost (writeScope scope ++ ']' :: rest) := by
  unfold writeScope
  split
  · exact .inr rfl
  · exact .inl rfl

/-- A scope is read to the closing bracket, and no scope is read as zero. -/
theorem readScope_writeScope (scope : UInt32) (rest : List Char) :
    readScope (writeScope scope ++ ']' :: rest) = (scope, ']' :: rest) := by
  unfold writeScope
  split
  · rename_i zero
    rw [zero]
    rfl
  · have below : scope.toNat < 4294967296 := scope.toNat_lt
    have digits : readDecimal 4294967296 (writeDecimal scope.toNat ++ ']' :: rest) =
        some (scope.toNat, ']' :: rest) :=
      readDecimal_writeDecimal below (endsNumeral_cons (by decide) rest)
    simp [readScope, readChar, digits]

/-- The digits of a port are read as the port. -/
theorem readPort_writeDecimal (port : UInt16) :
    readPort (writeDecimal port.toNat) = some port := by
  have below : port.toNat < 65536 := port.toNat_lt
  have digits := readDecimal_writeDecimal below (endsNumeral_nil 10)
  rw [List.append_nil] at digits
  simp [readPort, digits]

/-- The characters of an address are read as the address. -/
theorem readChars_writeChars (address : Address) :
    readChars address.writeChars = some address := by
  cases address with
  | v4 host port =>
    have ends : EndsNumeral 10 (':' :: writeDecimal port.toNat) := endsNumeral_cons (by decide) _
    have taken := readIpv4_writeIpv4 host ends
    simp [readChars, readV4, writeChars, taken, readChar, readPort_writeDecimal]
  | v6 host port scope =>
    have written : writeChars (.v6 host port scope) =
        '[' :: (writeIpv6 host ++ (writeScope scope ++ ']' :: ':' ::
          writeDecimal port.toNat)) := by
      simp [writeChars, writeScope]
    have notDotted : readV4 (writeChars (.v6 host port scope)) = none := by
      rw [written]
      rfl
    have taken := readIpv6_writeIpv6 host
      (endsHost_writeScope scope (':' :: writeDecimal port.toNat))
    rw [readChars, notDotted, written]
    simp [readV6, readChar, taken, readScope_writeScope, readPort_writeDecimal]

/-- The text of an address is read as the address. -/
@[simp] theorem read_write (address : Address) : read address.write = some address := by
  rw [read, write, String.toList_ofList, readChars_writeChars]

end NodeGate.Address
