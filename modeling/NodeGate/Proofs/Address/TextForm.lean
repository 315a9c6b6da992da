import NodeGate.Proofs.HeaderValue

/-!
# The text form of an address

`HasText` says which text an address is written as: an IPv4 host has its dotted form, an IPv4 host
mapped into IPv6 keeps it, and in any other IPv6 host the first longest run of two or more zero
groups is left out for a double colon; a scope stands behind the host unless it is zero.
`hasText_write` shows that this is the text that is written. `encodeAddress_carries` is the main
result: the header value of an address carries that text, is read as the same address, and stands
for no other.
-/

namespace NodeGate

namespace Address

/-- Of all runs of zero groups, this one is the longest, and the first of that length. -/
def IsFirstLongest (before : List UInt16) (zeros : Nat) (after : List UInt16) : Prop :=
  ∀ otherBefore otherZeros otherAfter,
    before ++ List.replicate zeros 0 ++ after =
      otherBefore ++ List.replicate otherZeros 0 ++ otherAfter →
    otherZeros < zeros ∨ otherZeros = zeros ∧ before.length ≤ otherBefore.length

/-- Zeros at the front of groups are among those that are taken while there are zeros. -/
theorem le_length_takeWhile_zeros (zeros : Nat) (after : List UInt16) :
    zeros ≤ ((List.replicate zeros 0 ++ after).takeWhile (· = 0)).length := by
  induction zeros with
  | zero => exact Nat.zero_le _
  | succ zeros inductionHypothesis =>
    rw [List.replicate_succ, List.cons_append, List.takeWhile_cons_of_pos (by simp)]
    exact Nat.succ_le_succ inductionHypothesis

/-- No run of zeros is longer than the one that is found, and none of its length begins earlier. -/
theorem longestZeroRun_firstLongest {groups before after : List UInt16} {zeros : Nat}
    (parts : groups = before ++ List.replicate zeros 0 ++ after) :
    zeros < (longestZeroRun groups).2 ∨
      zeros = (longestZeroRun groups).2 ∧ (longestZeroRun groups).1 ≤ before.length := by
  induction groups generalizing before with
  | nil =>
    have counted := congrArg List.length parts
    simp only [List.length_nil, List.length_append, List.length_replicate] at counted
    exact .inr ⟨by rw [longestZeroRun]; omega, Nat.zero_le _⟩
  | cons group rest inductionHypothesis =>
    have here (front : before = []) :
        zeros ≤ ((group :: rest).takeWhile (· = 0)).length := by
      rw [parts, front, List.nil_append]
      exact le_length_takeWhile_zeros zeros after
    have later (first : UInt16) (others : List UInt16) (behind : before = first :: others) :
        zeros < (longestZeroRun rest).2 ∨
          zeros = (longestZeroRun rest).2 ∧ (longestZeroRun rest).1 ≤ others.length := by
      apply inductionHypothesis
      rw [behind, List.cons_append, List.cons_append, List.cons.injEq] at parts
      exact parts.2
    rw [longestZeroRun]
    split
    · rename_i longer
      have atMost : zeros ≤ ((group :: rest).takeWhile (· = 0)).length := by
        cases before with
        | nil => exact here rfl
        | cons first others =>
          rcases later first others rfl with shorter | ⟨same, _⟩
          · exact Nat.le_trans (Nat.le_of_lt shorter) longer
          · exact Nat.le_trans (Nat.le_of_eq same) longer
      exact (Nat.lt_or_eq_of_le atMost).imp_right fun same => ⟨same, Nat.zero_le _⟩
    · rename_i notLonger
      cases before with
      | nil => exact .inl (Nat.lt_of_le_of_lt (here rfl) (Nat.lt_of_not_le notLonger))
      | cons first others =>
        rcases later first others rfl with shorter | ⟨same, notEarlier⟩
        · exact .inl shorter
        · exact .inr ⟨same, Nat.succ_le_succ notEarlier⟩

/-- The groups around the run that is found are those around a first longest run. -/
theorem isFirstLongest_longestZeroRun (groups : List UInt16) :
    IsFirstLongest (groups.take (longestZeroRun groups).1) (longestZeroRun groups).2
      (groups.drop ((longestZeroRun groups).1 + (longestZeroRun groups).2)) := by
  intro before zeros after parts
  rw [← split_longestZeroRun groups] at parts
  apply (longestZeroRun_firstLongest parts).imp_right
  intro found
  rw [List.length_take]
  exact ⟨found.1, Nat.le_trans (Nat.min_le_left _ _) found.2⟩

/-- The groups of an IPv4 host mapped into IPv6. -/
def mappedGroups (host : Ipv4) : List UInt16 :=
  [0, 0, 0, 0, 0, 0xffff, host.first.toUInt16 * 256 + host.second.toUInt16,
    host.third.toUInt16 * 256 + host.fourth.toUInt16]

/-- The text of an IPv6 host. -/
inductive HasHostText (host : Ipv6) : List Char → Prop where
  /-- A mapped IPv4 host keeps its dotted form. -/
  | mapped (dotted : Ipv4) (parts : host.groups = mappedGroups dotted) :
      HasHostText host ("::ffff:".toList ++ writeIpv4 dotted)
  /-- The first longest run of two or more zero groups is left out. -/
  | compressed {before after : List UInt16} {zeros : Nat}
      (notMapped : ∀ dotted, host.groups ≠ mappedGroups dotted)
      (parts : host.groups = before ++ List.replicate zeros 0 ++ after) (long : 2 ≤ zeros)
      (firstLongest : IsFirstLongest before zeros after) :
      HasHostText host (writeGroups before ++ "::".toList ++ writeGroups after)
  /-- Where no two zero groups stand together, all eight groups are written. -/
  | whole (notMapped : ∀ dotted, host.groups ≠ mappedGroups dotted)
      (noRun : ∀ before after, host.groups ≠ before ++ [0, 0] ++ after) :
      HasHostText host (writeGroups host.groups)

/-- The text of an address. -/
inductive HasText : Address → List Char → Prop where
  | v4 (host : Ipv4) (port : UInt16) :
      HasText (.v4 host port) (writeIpv4 host ++ ":".toList ++ writeDecimal port.toNat)
  /-- Without a scope the host stands alone in its brackets. -/
  | unscoped {host : Ipv6} {text : List Char} (port : UInt16) (hostText : HasHostText host text) :
      HasText (.v6 host port 0) ("[".toList ++ text ++ "]:".toList ++ writeDecimal port.toNat)
  | scoped {host : Ipv6} {text : List Char} {scope : UInt32} (port : UInt16)
      (nonzero : scope ≠ 0) (hostText : HasHostText host text) :
      HasText (.v6 host port scope) ("[".toList ++ text ++ "%".toList ++
        writeDecimal scope.toNat ++ "]:".toList ++ writeDecimal port.toNat)

/-- The groups that are written as those of a mapped host are those of the dotted host. -/
theorem eq_mappedGroups (high low : UInt16) :
    [0, 0, 0, 0, 0, 0xffff, high, low] =
      mappedGroups ⟨(high / 256).toUInt8, high.toUInt8, (low / 256).toUInt8, low.toUInt8⟩ := by
  simp [mappedGroups, group_of_octets]

/-- The text that is written for a host is its text. -/
theorem hasHostText_writeIpv6 (host : Ipv6) : HasHostText host (writeIpv6 host) := by
  unfold writeIpv6
  split
  · rename_i high low parts
    exact .mapped _ (parts.trans (eq_mappedGroups high low))
  · rename_i notMapped
    have unmapped : ∀ dotted, host.groups ≠ mappedGroups dotted := fun dotted same =>
      notMapped _ _ same
    simp only [writeCompressed]
    split
    · rename_i long
      have compressed := HasHostText.compressed unmapped (split_longestZeroRun host.groups) long
        (isFirstLongest_longestZeroRun host.groups)
      simpa using compressed
    · rename_i short
      refine .whole unmapped fun before after parts => ?_
      have run : host.groups = before ++ List.replicate 2 0 ++ after := parts
      rcases longestZeroRun_firstLongest run with longer | ⟨same, _⟩ <;> omega

/-- The text that is written for an address is its text. -/
theorem hasText_write (address : Address) : address.HasText address.write.toList := by
  rw [write, String.toList_ofList]
  cases address with
  | v4 host port =>
    have text := HasText.v4 host port
    simpa [writeChars] using text
  | v6 host port scope =>
    by_cases zero : scope = 0
    · subst zero
      have text := HasText.unscoped port (hasHostText_writeIpv6 host)
      simpa [writeChars] using text
    · have text := HasText.scoped port zero (hasHostText_writeIpv6 host)
      simpa [writeChars, zero] using text

end Address

namespace HeaderValue

/-- Only one address is written as a given value. -/
theorem encodeAddress_injective {left right : Address}
    (same : encodeAddress left = encodeAddress right) : left = right := by
  have read := congrArg decodeAddress same
  rw [decodeAddress_encodeAddress, decodeAddress_encodeAddress] at read
  exact Except.ok.inj read

/-- The value of an address is the mark of the version and then characters of the URL alphabet. Its
payload is the text of the address as a JSON string. It is read as the same address, and no other
address is written so. -/
theorem encodeAddress_carries (address : Address) :
    (∃ body, (encodeAddress address).toList = "v1.".toList ++ body ∧
        ∀ char ∈ body, char ∈ urlAlphabet) ∧
      (∃ payload text, unwrap (encodeAddress address) = .ok payload ∧
        (Json.read payload).bind Identity.readText = some text ∧ address.HasText text.toList) ∧
      decodeAddress (encodeAddress address) = .ok address ∧
      ∀ other, encodeAddress other = encodeAddress address ↔ other = address := by
  refine ⟨exists_toList_wrap _, ?_, decodeAddress_encodeAddress address, fun other => ?_⟩
  · refine ⟨_, address.write, unwrap_wrap _, ?_, address.hasText_write⟩
    rw [Json.read_write (Identity.legible_textTree address.write)]
    exact Identity.readText_textTree address.write
  · constructor
    · exact encodeAddress_injective
    · rintro rfl
      rfl

/-- Of two runs of two zero groups the first is left out, and the scope stands behind the host. -/
example : (Address.v6 ⟨[1, 0, 0, 2, 3, 0, 0, 0xfe80], rfl⟩ 9300 7).write =
    "[1::2:3:0:0:fe80%7]:9300" := by
  decide

end HeaderValue

end NodeGate
