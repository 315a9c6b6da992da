import NodeGate.Proofs.Base64Url

/-!
# Base64 has one text for every list of bytes

`Whole` says which lists of values make up whole bytes: no value is left over, and the bits that
the last one does not use are zero. Only symbols of such values are decoded (`sound_of_decode`),
and they are what their bytes are written as, so that a text is decoded to bytes exactly when it is
their encoding (`decode_eq_ok_iff`).
-/

namespace NodeGate.Base64Url

/-- Values of six bits that make up a whole number of bytes, with unused bits of zero. -/
inductive Whole : List Nat → Prop where
  | nil : Whole []
  | one {high low : Nat} (unused : low % 16 = 0) : Whole [high, low]
  | two {high middle low : Nat} (unused : low % 4 = 0) : Whole [high, middle, low]
  | three {first second third fourth : Nat} {rest : List Nat} (others : Whole rest) :
      Whole (first :: second :: third :: fourth :: rest)

/-- Values are whole exactly when their number does not leave one over and the last of them has no
bit set that is not used. -/
theorem whole_iff {values : List Nat} :
    Whole values ↔ values.length % 4 ≠ 1 ∧ ∀ last, values.getLast? = some last →
      (values.length % 4 = 2 → last % 16 = 0) ∧ (values.length % 4 = 3 → last % 4 = 0) := by
  match values with
  | [] => simp [Whole.nil]
  | [_] => exact ⟨nofun, fun even => absurd rfl even.1⟩
  | [high, low] =>
      constructor
      · rintro ⟨⟩
        rename_i unused
        simpa using unused
      · intro even
        exact .one ((even.2 low rfl).1 rfl)
  | [high, middle, low] =>
      constructor
      · rintro ⟨⟩
        · rename_i unused
          simpa using unused
      · intro even
        exact .two ((even.2 low rfl).2 rfl)
  | first :: second :: third :: fourth :: rest =>
      have step : Whole (first :: second :: third :: fourth :: rest) ↔ Whole rest := by
        constructor
        · rintro ⟨⟩
          assumption
        · exact .three
      have count : (first :: second :: third :: fourth :: rest).length % 4 = rest.length % 4 := by
        simp only [List.length_cons]
        omega
      rw [step, whole_iff, count]
      by_cases even : rest.length % 4 = 0
      · simp [even]
      · have ends : (first :: second :: third :: fourth :: rest).getLast? = rest.getLast? := by
          cases rest with
          | nil => exact absurd rfl even
          | cons next more => simp only [List.getLast?_cons_cons]
        rw [ends]

/-- The symbols of values that make up whole bytes. -/
def Sound (text : List UInt8) : Prop :=
  ∃ values, text = values.map symbol ∧ (∀ value ∈ values, value < 64) ∧ Whole values

/-- Four symbols are written for the bytes that they are unpacked to. -/
theorem encode_unpack_append {first second third fourth : Nat} (firstSmall : first < 64)
    (secondSmall : second < 64) (thirdSmall : third < 64) (fourthSmall : fourth < 64)
    (rest : List UInt8) :
    encode (unpack first second third fourth ++ rest) =
      symbol first :: symbol second :: symbol third :: symbol fourth :: encode rest := by
  have high : (UInt8.ofNat (first * 4 + second / 16)).toNat = first * 4 + second / 16 := by
    rw [UInt8.toNat_ofNat']
    omega
  have middle : (UInt8.ofNat (second % 16 * 16 + third / 4)).toNat =
      second % 16 * 16 + third / 4 := by
    rw [UInt8.toNat_ofNat']
    omega
  have low : (UInt8.ofNat (third % 4 * 64 + fourth)).toNat = third % 4 * 64 + fourth := by
    rw [UInt8.toNat_ofNat']
    omega
  simp only [unpack, List.cons_append, List.nil_append, encode, high, middle, low]
  rw [show (first * 4 + second / 16) / 4 = first by omega,
    show (first * 4 + second / 16) % 4 * 16 + (second % 16 * 16 + third / 4) / 16 = second by
      omega,
    show (second % 16 * 16 + third / 4) % 16 * 4 + (third % 4 * 64 + fourth) / 64 = third by omega,
    show (third % 4 * 64 + fourth) % 64 = fourth by omega]

/-- The symbols of whole values are the encoding of some bytes. -/
theorem Whole.exists_encode {values : List Nat} (whole : Whole values)
    (small : ∀ value ∈ values, value < 64) : ∃ bytes, values.map symbol = encode bytes := by
  induction whole with
  | nil => exact ⟨[], rfl⟩
  | one unused =>
      rename_i high low
      simp only [List.forall_mem_cons] at small
      refine ⟨[UInt8.ofNat (high * 4 + low / 16)], ?_⟩
      have byte : (UInt8.ofNat (high * 4 + low / 16)).toNat = high * 4 + low / 16 := by
        rw [UInt8.toNat_ofNat']
        omega
      rw [encode, byte, show (high * 4 + low / 16) / 4 = high by omega,
        show (high * 4 + low / 16) % 4 * 16 = low by omega]
      rfl
  | two unused =>
      rename_i high middle low
      simp only [List.forall_mem_cons] at small
      refine ⟨[UInt8.ofNat (high * 4 + middle / 16), UInt8.ofNat (middle % 16 * 16 + low / 4)], ?_⟩
      have first : (UInt8.ofNat (high * 4 + middle / 16)).toNat = high * 4 + middle / 16 := by
        rw [UInt8.toNat_ofNat']
        omega
      have second : (UInt8.ofNat (middle % 16 * 16 + low / 4)).toNat =
          middle % 16 * 16 + low / 4 := by
        rw [UInt8.toNat_ofNat']
        omega
      have highBack : (high * 4 + middle / 16) / 4 = high := by omega
      have middleBack :
          (high * 4 + middle / 16) % 4 * 16 + (middle % 16 * 16 + low / 4) / 16 = middle := by
        omega
      have lowBack : (middle % 16 * 16 + low / 4) % 16 * 4 = low := by omega
      rw [encode, first, second, highBack, middleBack, lowBack]
      rfl
  | three others inductionHypothesis =>
      rename_i first second third fourth rest
      simp only [List.forall_mem_cons] at small
      obtain ⟨firstSmall, secondSmall, thirdSmall, fourthSmall, othersSmall⟩ := small
      obtain ⟨bytes, written⟩ := inductionHypothesis othersSmall
      refine ⟨unpack first second third fourth ++ bytes, ?_⟩
      rw [encode_unpack_append firstSmall secondSmall thirdSmall fourthSmall, ← written]
      rfl

/-- Steps that succeed one after the other each succeed. -/
theorem exists_of_bind_eq_ok {First Second : Type} {first : Except Fault First}
    {next : First → Except Fault Second} {result : Second} (done : first >>= next = .ok result) :
    ∃ value, first = .ok value ∧ next value = .ok result := by
  cases first with
  | error fault => cases done
  | ok value => exact ⟨value, rfl, done⟩

/-- A byte that has a value is the symbol of that value. -/
theorem eq_symbol_of_value? {byte : UInt8} {value : Nat} (read : value? byte = some value) :
    value < 64 ∧ byte = symbol value := by
  have rebuilt {code : Nat} (same : code = byte.toNat) : byte = UInt8.ofNat code := by
    rw [same, UInt8.ofNat_toNat]
  simp only [value?] at read
  split at read
  · cases read
    refine ⟨by omega, ?_⟩
    rw [symbol, if_pos (by omega)]
    exact rebuilt (by omega)
  split at read
  · cases read
    refine ⟨by omega, ?_⟩
    rw [symbol, if_neg (by omega), if_pos (by omega)]
    exact rebuilt (by omega)
  split at read
  · cases read
    refine ⟨by omega, ?_⟩
    rw [symbol, if_neg (by omega), if_neg (by omega), if_pos (by omega)]
    exact rebuilt (by omega)
  split at read
  · rename_i hyphen
    cases read
    exact ⟨by omega, rebuilt hyphen.symm⟩
  split at read
  · rename_i underscore
    cases read
    exact ⟨by omega, rebuilt underscore.symm⟩
  · cases read

/-- A byte that is read at a place is the symbol of what is read. -/
theorem eq_symbol_of_valueAt {offset value : Nat} {byte : UInt8}
    (read : valueAt offset byte = .ok value) : value < 64 ∧ byte = symbol value := by
  unfold valueAt at read
  split at read
  · rename_i found
    cases read
    exact eq_symbol_of_value? found
  · cases read

/-- A padding sign that was met is remembered. -/
theorem padding_of_scanLast {offset index start : Nat} {group : List UInt8} {values : List Nat}
    {padding : Option Nat}
    (scanned : scanLast offset index (some start) group = .ok (values, padding)) :
    padding = some start := by
  induction group generalizing index with
  | nil =>
      cases scanned
      rfl
  | cons byte rest inductionHypothesis =>
      rw [scanLast] at scanned
      split at scanned
      · split at scanned
        · cases scanned
        · exact inductionHypothesis scanned
      · cases scanned

/-- A last group that is scanned without padding is the symbols of its values. -/
theorem symbols_of_scanLast {offset index : Nat} {group : List UInt8} {values : List Nat}
    (scanned : scanLast offset index none group = .ok (values, none)) :
    (∀ value ∈ values, value < 64) ∧ group = values.map symbol := by
  induction group generalizing index values with
  | nil =>
      cases scanned
      exact ⟨nofun, rfl⟩
  | cons byte rest inductionHypothesis =>
      rw [scanLast] at scanned
      split at scanned
      · split at scanned
        · cases scanned
        · cases padding_of_scanLast scanned
      · obtain ⟨value, read, scanned⟩ := exists_of_bind_eq_ok scanned
        obtain ⟨⟨others, padding⟩, later, scanned⟩ := exists_of_bind_eq_ok scanned
        cases scanned
        obtain ⟨small, rfl⟩ := eq_symbol_of_valueAt read
        obtain ⟨othersSmall, rfl⟩ := inductionHypothesis later
        exact ⟨List.forall_mem_cons.2 ⟨small, othersSmall⟩, rfl⟩

/-- A last group of at most four bytes that is decoded is sound. -/
theorem sound_of_decodeLast {offset : Nat} {group bytes : List UInt8} (short : group.length ≤ 4)
    (decoded : decodeLast offset group = .ok bytes) : Sound group := by
  by_cases empty : group = []
  · exact ⟨[], empty, nofun, .nil⟩
  obtain ⟨⟨values, padding⟩, scanned, decoded⟩ := exists_of_bind_eq_ok decoded
  simp only [empty, if_false] at decoded
  by_cases few : values.length < 2
  · simp [few, throw, throwThe, MonadExceptOf.throw, bind, Except.bind] at decoded
  cases padding with
  | some start => simp [few, throw, throwThe, MonadExceptOf.throw, bind, Except.bind] at decoded
  | none =>
      obtain ⟨small, rfl⟩ := symbols_of_scanLast scanned
      refine ⟨values, rfl, small, ?_⟩
      match values with
      | [] | [_] => simp at few
      | [high, low] =>
          by_cases unused : low % 16 = 0
          · exact .one unused
          · simp [unused] at decoded
      | [high, middle, low] =>
          by_cases unused : low % 4 = 0
          · exact .two unused
          · simp [unused] at decoded
      | [_, _, _, _] => exact .three .nil
      | _ :: _ :: _ :: _ :: _ :: _ =>
          simp only [List.map_cons, List.length_cons] at short
          omega

/-- A text that is decoded from some offset on is sound. -/
theorem sound_of_decodeFrom {offset : Nat} {text bytes : List UInt8}
    (decoded : decodeFrom offset text = .ok bytes) : Sound text := by
  fun_induction decodeFrom offset text generalizing bytes with
  | case1 offset first second third fourth next rest inductionHypothesis =>
      obtain ⟨firstValue, firstRead, decoded⟩ := exists_of_bind_eq_ok decoded
      obtain ⟨secondValue, secondRead, decoded⟩ := exists_of_bind_eq_ok decoded
      obtain ⟨thirdValue, thirdRead, decoded⟩ := exists_of_bind_eq_ok decoded
      obtain ⟨fourthValue, fourthRead, decoded⟩ := exists_of_bind_eq_ok decoded
      obtain ⟨others, later, _⟩ := exists_of_bind_eq_ok decoded
      obtain ⟨firstSmall, rfl⟩ := eq_symbol_of_valueAt firstRead
      obtain ⟨secondSmall, rfl⟩ := eq_symbol_of_valueAt secondRead
      obtain ⟨thirdSmall, rfl⟩ := eq_symbol_of_valueAt thirdRead
      obtain ⟨fourthSmall, rfl⟩ := eq_symbol_of_valueAt fourthRead
      obtain ⟨values, written, small, whole⟩ := inductionHypothesis later
      refine ⟨firstValue :: secondValue :: thirdValue :: fourthValue :: values, ?_, ?_,
        .three whole⟩
      · rw [written]
        rfl
      · simp only [List.forall_mem_cons]
        exact ⟨firstSmall, secondSmall, thirdSmall, fourthSmall, small⟩
  | case2 offset group notLonger =>
      refine sound_of_decodeLast ?_ decoded
      match group with
      | [] | [_] | [_, _] | [_, _, _] | [_, _, _, _] => simp
      | _ :: _ :: _ :: _ :: _ :: _ => exact absurd rfl (notLonger _ _ _ _ _ _)

/-- A text that is decoded is sound. -/
theorem sound_of_decode {text bytes : List UInt8} (decoded : decode text = .ok bytes) :
    Sound text := by
  obtain ⟨_, _, decoded⟩ := exists_of_bind_eq_ok decoded
  exact sound_of_decodeFrom decoded

/-- A text is decoded to bytes exactly when it is their encoding. -/
theorem decode_eq_ok_iff {text bytes : List UInt8} :
    decode text = .ok bytes ↔ text = encode bytes := by
  constructor
  · intro decoded
    obtain ⟨values, rfl, small, whole⟩ := sound_of_decode decoded
    obtain ⟨written, same⟩ := whole.exists_encode small
    rw [same, decode_encode] at decoded
    cases decoded
    exact same
  · rintro rfl
    exact decode_encode bytes

/-- A text is refused exactly when it is not sound. -/
theorem exists_decode_eq_error_iff {text : List UInt8} :
    (∃ fault, decode text = .error fault) ↔ ¬ Sound text := by
  constructor
  · rintro ⟨fault, refused⟩ ⟨values, rfl, small, whole⟩
    obtain ⟨bytes, same⟩ := whole.exists_encode small
    rw [same, decode_encode] at refused
    cases refused
  · intro unsound
    cases decoded : decode text with
    | error fault => exact ⟨fault, rfl⟩
    | ok bytes => exact absurd (sound_of_decode decoded) unsound

end NodeGate.Base64Url
