import NodeGate.Base64Url

/-!
# Base64 reads what it wrote

Every symbol that is written has a value, so no padding is met and the last group never holds a
fault. `decode_encode` follows the groups of `encode`: a group of three bytes is unpacked again,
and one or two bytes at the end leave unused bits of zero.
-/

namespace NodeGate.Base64Url

/-- Symbols have the values that they were written for. -/
theorem value?_symbol : ∀ value < 64, value? (symbol value) = some value := by
  decide

/-- A symbol is no padding sign. -/
theorem symbol_ne_paddingSign {value : Nat} (small : value < 64) : symbol value ≠ paddingSign := by
  intro same
  have read := value?_symbol value small
  have none : value? paddingSign = none := by decide
  rw [same, none] at read
  cases read

/-- A symbol is read at any place. -/
theorem valueAt_symbol (offset : Nat) {value : Nat} (small : value < 64) :
    valueAt offset (symbol value) = .ok value := by
  rw [valueAt, value?_symbol value small]

/-- Everything that is written is a symbol. -/
theorem exists_symbol_of_mem_encode {bytes : List UInt8} {byte : UInt8}
    (member : byte ∈ encode bytes) : ∃ value < 64, byte = symbol value := by
  fun_induction encode bytes with
  | case1 => simp at member
  | case2 first =>
      have firstBound := first.toNat_lt
      simp only [List.mem_cons, List.not_mem_nil, or_false] at member
      rcases member with rfl | rfl
      · exact ⟨_, by omega, rfl⟩
      · exact ⟨_, by omega, rfl⟩
  | case3 first second =>
      have firstBound := first.toNat_lt
      have secondBound := second.toNat_lt
      simp only [List.mem_cons, List.not_mem_nil, or_false] at member
      rcases member with rfl | rfl | rfl
      · exact ⟨_, by omega, rfl⟩
      · exact ⟨_, by omega, rfl⟩
      · exact ⟨_, by omega, rfl⟩
  | case4 first second third rest inductionHypothesis =>
      have firstBound := first.toNat_lt
      have secondBound := second.toNat_lt
      have thirdBound := third.toNat_lt
      simp only [List.mem_cons] at member
      rcases member with rfl | rfl | rfl | rfl | later
      · exact ⟨_, by omega, rfl⟩
      · exact ⟨_, by omega, rfl⟩
      · exact ⟨_, by omega, rfl⟩
      · exact ⟨_, by omega, rfl⟩
      · exact inductionHypothesis later

/-- What was written has no surplus symbol. -/
theorem checkSurplus_encode (bytes : List UInt8) : checkSurplus (encode bytes) = .ok () := by
  unfold checkSurplus
  split
  · rename_i last found
    obtain ⟨value, small, rfl⟩ := exists_symbol_of_mem_encode (List.mem_of_getLast? found)
    simp [value?_symbol value small]
  · rfl

/-- A last group of symbols is scanned as their values, without padding. -/
theorem scanLast_symbols (offset index : Nat) (values : List Nat)
    (small : ∀ value ∈ values, value < 64) :
    scanLast offset index none (values.map symbol) = .ok (values, none) := by
  induction values generalizing index with
  | nil => rfl
  | cons value rest inductionHypothesis =>
      have first := small value List.mem_cons_self
      have others := inductionHypothesis (index + 1) fun other member =>
        small other (List.mem_cons_of_mem _ member)
      simp only [List.map_cons, scanLast, symbol_ne_paddingSign first, if_false,
        valueAt_symbol _ first, others]
      rfl

/-- Two symbols at the end with nothing in their unused bits are one byte. -/
theorem decodeLast_pair (offset : Nat) {high low : Nat} (highSmall : high < 64)
    (lowSmall : low < 64) (unused : low % 16 = 0) :
    decodeLast offset [symbol high, symbol low] = .ok [UInt8.ofNat (high * 4 + low / 16)] := by
  have scanned := scanLast_symbols offset 0 [high, low] (by simp [highSmall, lowSmall])
  simp only [List.map_cons, List.map_nil] at scanned
  simp [decodeLast, scanned, bind, Except.bind, unused]

/-- Three symbols at the end with nothing in their unused bits are two bytes. -/
theorem decodeLast_triple (offset : Nat) {high middle low : Nat} (highSmall : high < 64)
    (middleSmall : middle < 64) (lowSmall : low < 64) (unused : low % 4 = 0) :
    decodeLast offset [symbol high, symbol middle, symbol low] =
      .ok [UInt8.ofNat (high * 4 + middle / 16), UInt8.ofNat (middle % 16 * 16 + low / 4)] := by
  have scanned := scanLast_symbols offset 0 [high, middle, low]
    (by simp [highSmall, middleSmall, lowSmall])
  simp only [List.map_cons, List.map_nil] at scanned
  simp [decodeLast, scanned, bind, Except.bind, unused]

/-- Four symbols at the end are three bytes. -/
theorem decodeLast_quadruple (offset : Nat) {first second third fourth : Nat}
    (firstSmall : first < 64) (secondSmall : second < 64) (thirdSmall : third < 64)
    (fourthSmall : fourth < 64) :
    decodeLast offset [symbol first, symbol second, symbol third, symbol fourth] =
      .ok (unpack first second third fourth) := by
  have scanned := scanLast_symbols offset 0 [first, second, third, fourth]
    (by simp [firstSmall, secondSmall, thirdSmall, fourthSmall])
  simp only [List.map_cons, List.map_nil] at scanned
  simp [decodeLast, scanned, bind, Except.bind, pure, Except.pure]

/-- A byte is rebuilt from a number of its value. -/
theorem ofNat_eq_of_toNat_eq {value : Nat} (byte : UInt8) (same : value = byte.toNat) :
    UInt8.ofNat value = byte := by
  rw [same, UInt8.ofNat_toNat]

/-- The four symbols of three bytes are unpacked to the bytes. -/
theorem unpack_parts (first second third : UInt8) :
    unpack (first.toNat / 4) (first.toNat % 4 * 16 + second.toNat / 16)
      (second.toNat % 16 * 4 + third.toNat / 64) (third.toNat % 64) = [first, second, third] := by
  have firstBound := first.toNat_lt
  have secondBound := second.toNat_lt
  have thirdBound := third.toNat_lt
  unfold unpack
  rw [ofNat_eq_of_toNat_eq first (by omega),
    ofNat_eq_of_toNat_eq second (by omega),
    ofNat_eq_of_toNat_eq third (by omega)]

/-- A last group of up to three bytes is read back. -/
theorem decodeLast_encode (offset : Nat) (bytes : List UInt8) (short : bytes.length ≤ 3) :
    decodeLast offset (encode bytes) = .ok bytes := by
  match bytes with
  | [] => rfl
  | [first] =>
      have firstBound := first.toNat_lt
      rw [encode, decodeLast_pair offset (by omega) (by omega) (by omega),
        ofNat_eq_of_toNat_eq first (by omega)]
  | [first, second] =>
      have firstBound := first.toNat_lt
      have secondBound := second.toNat_lt
      rw [encode, decodeLast_triple offset (by omega) (by omega) (by omega) (by omega),
        ofNat_eq_of_toNat_eq first (by omega),
        ofNat_eq_of_toNat_eq second (by omega)]
  | [first, second, third] =>
      have firstBound := first.toNat_lt
      have secondBound := second.toNat_lt
      have thirdBound := third.toNat_lt
      rw [encode, encode, decodeLast_quadruple offset (by omega) (by omega) (by omega) (by omega),
        unpack_parts]
  | _ :: _ :: _ :: _ :: _ =>
      simp only [List.length_cons] at short
      omega

/-- A group of three bytes in front of others is read back, and then the others. -/
theorem decodeFrom_group (offset : Nat) (first second third : UInt8) {rest : List UInt8}
    (nonempty : rest ≠ []) :
    decodeFrom offset (encode (first :: second :: third :: rest)) =
      (decodeFrom (offset + 4) (encode rest)).map ([first, second, third] ++ ·) := by
  have firstBound := first.toNat_lt
  have secondBound := second.toNat_lt
  have thirdBound := third.toNat_lt
  obtain ⟨next, more, written⟩ : ∃ next more, encode rest = next :: more := by
    match rest with
    | [] => exact absurd rfl nonempty
    | [_] => exact ⟨_, _, rfl⟩
    | [_, _] => exact ⟨_, _, rfl⟩
    | _ :: _ :: _ :: _ => exact ⟨_, _, rfl⟩
  rw [encode, written, decodeFrom]
  rw [valueAt_symbol _ (by omega), valueAt_symbol _ (by omega), valueAt_symbol _ (by omega),
    valueAt_symbol _ (by omega)]
  cases decodeFrom (offset + 4) (next :: more) <;>
    simp [bind, Except.bind, Except.map, unpack_parts, pure, Except.pure]

/-- What was written is read back from any offset. -/
theorem decodeFrom_encode (offset : Nat) (bytes : List UInt8) :
    decodeFrom offset (encode bytes) = .ok bytes := by
  fun_induction encode bytes generalizing offset with
  | case1 => rfl
  | case2 first => exact decodeLast_encode offset [first] (by simp)
  | case3 first second => exact decodeLast_encode offset [first, second] (by simp)
  | case4 first second third rest inductionHypothesis =>
      by_cases last : rest = []
      · subst last
        exact decodeLast_encode offset [first, second, third] (by simp)
      · have group := decodeFrom_group offset first second third last
        rw [encode] at group
        rw [group, inductionHypothesis]
        rfl

/-- Decoding inverts encoding. -/
theorem decode_encode (bytes : List UInt8) : decode (encode bytes) = .ok bytes := by
  rw [decode, checkSurplus_encode]
  exact decodeFrom_encode 0 bytes

end NodeGate.Base64Url
