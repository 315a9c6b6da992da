import Mathlib.Algebra.Group.Nat.Defs
import NodeGate.Proofs.Base64Url

/-!
# The bits of base64

Base64 writes the bits of bytes six at a time, with zeros after the last of them where they do not
come out even. `Spell` says this of a list of values, and `exists_spell_encode` that it is what
is written. No other list of values spells the same bytes (`Spell.eq`).
-/

namespace NodeGate.Base64Url

/-- The lowest bits of a number, so many of them, the highest first. -/
def bits : Nat → Nat → List Bool
  | 0, _ => []
  | width + 1, number => bits width (number / 2) ++ [decide (number % 2 = 1)]

/-- There are as many bits as were asked for. -/
@[simp] theorem length_bits (width number : Nat) : (bits width number).length = width := by
  induction width generalizing number with
  | zero => rfl
  | succ width inductionHypothesis => simp [bits, inductionHypothesis]

/-- Bits above the lowest do not matter. -/
theorem bits_mod (width number : Nat) : bits width (number % 2 ^ width) = bits width number := by
  induction width generalizing number with
  | zero => rfl
  | succ width inductionHypothesis =>
      have half : number % 2 ^ (width + 1) / 2 = number / 2 % 2 ^ width := by
        rw [Nat.pow_succ', Nat.mod_mul_right_div_self]
      have last : number % 2 ^ (width + 1) % 2 = number % 2 :=
        Nat.mod_mod_of_dvd _ ⟨2 ^ width, Nat.pow_succ'⟩
      rw [bits, bits, half, last, inductionHypothesis]

/-- The bits of a number are those of its higher part and then those of its lower part. -/
theorem bits_add (high low number : Nat) :
    bits (high + low) number = bits high (number / 2 ^ low) ++ bits low number := by
  induction low generalizing number with
  | zero => simp [bits]
  | succ low inductionHypothesis =>
      rw [← Nat.add_assoc, bits, bits, inductionHypothesis, Nat.div_div_eq_div_mul, ← Nat.pow_succ',
        List.append_assoc]

/-- The bits of a number that is put together from two parts are the bits of the parts. -/
theorem bits_join (high low upper : Nat) {lower : Nat} (small : lower < 2 ^ low) :
    bits (high + low) (upper * 2 ^ low + lower) = bits high upper ++ bits low lower := by
  have upperPart : (upper * 2 ^ low + lower) / 2 ^ low = upper := by
    rw [Nat.mul_comm, Nat.mul_add_div (Nat.two_pow_pos low), Nat.div_eq_of_lt small, Nat.add_zero]
  have lowerPart : (upper * 2 ^ low + lower) % 2 ^ low = lower := by
    rw [Nat.mul_comm, Nat.mul_add_mod, Nat.mod_eq_of_lt small]
  rw [bits_add, upperPart, ← bits_mod low (upper * 2 ^ low + lower), lowerPart]

/-- The bits of zero are zeros. -/
theorem bits_zero (width : Nat) : bits width 0 = List.replicate width false := by
  induction width with
  | zero => rfl
  | succ width inductionHypothesis =>
      rw [bits, Nat.zero_div, inductionHypothesis, List.replicate_succ']
      rfl

/-- Where the lower part is empty, its bits are zeros. -/
theorem bits_filled (high low upper : Nat) :
    bits (high + low) (upper * 2 ^ low) = bits high upper ++ List.replicate low false := by
  rw [← bits_zero, ← bits_join high low upper (Nat.two_pow_pos low), Nat.add_zero]

/-- Small numbers with the same bits are equal. -/
theorem eq_of_bits_eq {width left right : Nat} (leftSmall : left < 2 ^ width)
    (rightSmall : right < 2 ^ width) (same : bits width left = bits width right) :
    left = right := by
  induction width generalizing left right with
  | zero => omega
  | succ width inductionHypothesis =>
      obtain ⟨higher, lowest⟩ := List.append_inj' same rfl
      rw [Nat.pow_succ] at leftSmall rightSmall
      have halves := inductionHypothesis (by omega) (by omega) higher
      simp only [List.cons.injEq, decide_eq_decide, and_true] at lowest
      omega

/-- The bits of bytes, one byte after the other. -/
def byteBits (bytes : List UInt8) : List Bool :=
  bytes.flatMap fun byte => bits 8 byte.toNat

/-- Values spell bytes: their bits, six of each, are those of the bytes and then fewer zeros than
another value would hold. -/
def Spell (values : List Nat) (bytes : List UInt8) : Prop :=
  ∃ unused < 6, values.flatMap (bits 6) = byteBits bytes ++ List.replicate unused false

/-- There are six bits to a value. -/
theorem length_flatMap_bits (values : List Nat) :
    (values.flatMap (bits 6)).length = 6 * values.length := by
  induction values with
  | nil => rfl
  | cons value rest inductionHypothesis =>
      rw [List.flatMap_cons, List.length_append, inductionHypothesis, length_bits,
        List.length_cons, Nat.mul_succ, Nat.add_comm]

/-- Values of six bits with the same bits are the same. -/
theorem eq_of_flatMap_bits_eq {left right : List Nat} (leftSmall : ∀ value ∈ left, value < 64)
    (rightSmall : ∀ value ∈ right, value < 64)
    (same : left.flatMap (bits 6) = right.flatMap (bits 6)) : left = right := by
  have lengths := congrArg List.length same
  rw [length_flatMap_bits, length_flatMap_bits] at lengths
  induction left generalizing right with
  | nil =>
      cases right with
      | nil => rfl
      | cons => simp at lengths
  | cons value rest inductionHypothesis =>
      cases right with
      | nil => simp at lengths
      | cons other more =>
          obtain ⟨valueSmall, restSmall⟩ := List.forall_mem_cons.1 leftSmall
          obtain ⟨otherSmall, moreSmall⟩ := List.forall_mem_cons.1 rightSmall
          rw [List.flatMap_cons, List.flatMap_cons] at same
          obtain ⟨first, later⟩ := List.append_inj same (by simp)
          rw [eq_of_bits_eq valueSmall otherSmall first,
            inductionHypothesis restSmall moreSmall later (by
              simp only [List.length_cons] at lengths
              omega)]

/-- Only one list of values of six bits spells given bytes. -/
theorem Spell.eq {left right : List Nat} {bytes : List UInt8} (leftSpell : Spell left bytes)
    (rightSpell : Spell right bytes) (leftSmall : ∀ value ∈ left, value < 64)
    (rightSmall : ∀ value ∈ right, value < 64) : left = right := by
  obtain ⟨leftUnused, leftFew, leftBits⟩ := leftSpell
  obtain ⟨rightUnused, rightFew, rightBits⟩ := rightSpell
  -- The bits are counted in sixes, so the number of unused ones is settled by the bytes.
  have leftLength := congrArg List.length leftBits
  have rightLength := congrArg List.length rightBits
  rw [List.length_append, length_flatMap_bits, List.length_replicate] at leftLength
  rw [List.length_append, length_flatMap_bits, List.length_replicate] at rightLength
  have unused : leftUnused = rightUnused := by omega
  apply eq_of_flatMap_bits_eq leftSmall rightSmall
  rw [leftBits, rightBits, unused]

/-- The bits of a byte are those of its upper six and its lower two bits. -/
theorem bits_six_two (byte : UInt8) :
    bits 8 byte.toNat = bits 6 (byte.toNat / 4) ++ bits 2 (byte.toNat % 4) := by
  rw [show byte.toNat % 4 = byte.toNat % 2 ^ 2 from rfl, bits_mod]
  exact bits_add 6 2 byte.toNat

/-- The bits of a byte are those of its upper four and its lower four bits. -/
theorem bits_four_four (byte : UInt8) :
    bits 8 byte.toNat = bits 4 (byte.toNat / 16) ++ bits 4 (byte.toNat % 16) := by
  rw [show byte.toNat % 16 = byte.toNat % 2 ^ 4 from rfl, bits_mod]
  exact bits_add 4 4 byte.toNat

/-- The bits of a byte are those of its upper two and its lower six bits. -/
theorem bits_two_six (byte : UInt8) :
    bits 8 byte.toNat = bits 2 (byte.toNat / 64) ++ bits 6 (byte.toNat % 64) := by
  rw [show byte.toNat % 64 = byte.toNat % 2 ^ 6 from rfl, bits_mod]
  exact bits_add 2 6 byte.toNat

/-- The second symbol holds the lower two bits of a byte and the upper four of the next. -/
theorem bits_second (first second : UInt8) :
    bits 6 (first.toNat % 4 * 16 + second.toNat / 16) =
      bits 2 (first.toNat % 4) ++ bits 4 (second.toNat / 16) := by
  have bound := second.toNat_lt
  exact bits_join 2 4 (first.toNat % 4) (by omega)

/-- The third symbol holds the lower four bits of a byte and the upper two of the next. -/
theorem bits_third (second third : UInt8) :
    bits 6 (second.toNat % 16 * 4 + third.toNat / 64) =
      bits 4 (second.toNat % 16) ++ bits 2 (third.toNat / 64) := by
  have bound := third.toNat_lt
  exact bits_join 4 2 (second.toNat % 16) (by omega)

/-- What is written for bytes are the symbols of values of six bits that spell the bytes. -/
theorem exists_spell_encode (bytes : List UInt8) :
    ∃ values, encode bytes = values.map symbol ∧ (∀ value ∈ values, value < 64) ∧
      Spell values bytes := by
  fun_induction encode bytes with
  | case1 => exact ⟨[], rfl, List.forall_mem_nil _, 0, by decide, rfl⟩
  | case2 first =>
      have firstBound := first.toNat_lt
      refine ⟨[first.toNat / 4, first.toNat % 4 * 16], rfl, ?_, 4, by decide, ?_⟩
      · simp only [List.forall_mem_cons, List.not_mem_nil, false_implies, implies_true, and_true]
        omega
      · have filled : bits 6 (first.toNat % 4 * 16) =
            bits 2 (first.toNat % 4) ++ List.replicate 4 false :=
          bits_filled 2 4 (first.toNat % 4)
        simp only [byteBits, List.flatMap_cons, List.flatMap_nil, List.append_nil, filled,
          bits_six_two first, List.append_assoc]
  | case3 first second =>
      have firstBound := first.toNat_lt
      have secondBound := second.toNat_lt
      refine ⟨[first.toNat / 4, first.toNat % 4 * 16 + second.toNat / 16, second.toNat % 16 * 4],
        rfl, ?_, 2, by decide, ?_⟩
      · simp only [List.forall_mem_cons, List.not_mem_nil, false_implies, implies_true, and_true]
        omega
      · have filled : bits 6 (second.toNat % 16 * 4) =
            bits 4 (second.toNat % 16) ++ List.replicate 2 false :=
          bits_filled 4 2 (second.toNat % 16)
        simp only [byteBits, List.flatMap_cons, List.flatMap_nil, List.append_nil, filled,
          bits_second, bits_six_two first, bits_four_four second, List.append_assoc]
  | case4 first second third rest inductionHypothesis =>
      have firstBound := first.toNat_lt
      have secondBound := second.toNat_lt
      have thirdBound := third.toNat_lt
      obtain ⟨values, written, small, unused, few, spelled⟩ := inductionHypothesis
      refine ⟨first.toNat / 4 :: (first.toNat % 4 * 16 + second.toNat / 16) ::
        (second.toNat % 16 * 4 + third.toNat / 64) :: third.toNat % 64 :: values,
        ?_, ?_, unused, few, ?_⟩
      · rw [written]
        rfl
      · simp only [List.forall_mem_cons]
        exact ⟨by omega, by omega, by omega, by omega, small⟩
      · simp only [byteBits, List.flatMap_cons] at spelled ⊢
        rw [spelled, bits_second, bits_third, bits_six_two first, bits_four_four second,
          bits_two_six third]
        simp only [List.append_assoc]

end NodeGate.Base64Url
