import Mathlib.Data.List.Lex
import NodeGate.Text.Utf8

/-!
# The order of bytes is the order of characters

Texts are ordered by their characters. `ofString_lt_ofString` shows that their UTF-8 bytes are
then in the same order: a longer form begins with a greater byte, and forms of one length are
compared digit by digit.
-/

namespace NodeGate.Text.Utf8

/-- A byte that is written for a smaller number comes first. -/
theorem ofNat_cons_lt {left right : Nat} {leftRest rightRest : List UInt8} (small : right < 256)
    (before : left < right) :
    UInt8.ofNat left :: leftRest < UInt8.ofNat right :: rightRest := by
  apply List.cons_lt_cons_iff.2
  left
  rw [UInt8.lt_iff_toNat_lt, UInt8.toNat_ofNat', UInt8.toNat_ofNat']
  omega

/-- A number is written most significant digit first: the first byte that differs decides. -/
theorem ofNat_cons_lt_of_le {left right : Nat} {leftRest rightRest : List UInt8}
    (small : right < 256) (atMost : left ≤ right)
    (before : left = right → leftRest < rightRest) :
    UInt8.ofNat left :: leftRest < UInt8.ofNat right :: rightRest := by
  rcases Nat.lt_or_eq_of_le atMost with smaller | same
  · exact ofNat_cons_lt small smaller
  · exact List.cons_lt_cons_iff.2 (.inr ⟨congrArg UInt8.ofNat same, before same⟩)

/-- The form of a smaller character comes first, whatever follows it. -/
theorem utf8EncodeChar_append_lt {left right : Char} (before : left < right)
    (leftRest rightRest : List UInt8) :
    String.utf8EncodeChar left ++ leftRest < String.utf8EncodeChar right ++ rightRest := by
  rw [Char.lt_def, UInt32.lt_iff_toNat_lt] at before
  have bound : right.val.toNat < 0x110000 := by
    rcases right.valid with low | high
    · exact Nat.lt_trans low (by decide)
    · exact high.2
  simp only [String.utf8EncodeChar]
  generalize left.val.toNat = low at before
  generalize right.val.toNat = high at before bound
  -- The forms of the smaller character, from one byte to four; the other form is no shorter.
  split
  · split
    · exact ofNat_cons_lt (by omega) before
    split
    · exact ofNat_cons_lt (by omega) (by omega)
    split
    · exact ofNat_cons_lt (by omega) (by omega)
    · exact ofNat_cons_lt (by omega) (by omega)
  split
  · rw [if_neg (by omega)]
    split
    · refine ofNat_cons_lt_of_le (by omega) (by omega) fun _ => ?_
      exact ofNat_cons_lt (by omega) (by omega)
    split
    · exact ofNat_cons_lt (by omega) (by omega)
    · exact ofNat_cons_lt (by omega) (by omega)
  split
  · rw [if_neg (by omega), if_neg (by omega)]
    split
    · refine ofNat_cons_lt_of_le (by omega) (by omega) fun _ => ?_
      refine ofNat_cons_lt_of_le (by omega) (by omega) fun _ => ?_
      exact ofNat_cons_lt (by omega) (by omega)
    · exact ofNat_cons_lt (by omega) (by omega)
  · rw [if_neg (by omega), if_neg (by omega), if_neg (by omega)]
    refine ofNat_cons_lt_of_le (by omega) (by omega) fun _ => ?_
    refine ofNat_cons_lt_of_le (by omega) (by omega) fun _ => ?_
    refine ofNat_cons_lt_of_le (by omega) (by omega) fun _ => ?_
    exact ofNat_cons_lt (by omega) (by omega)

/-- Texts in order have their bytes in order. -/
theorem encode_lt_encode {left right : List Char} (before : left < right) :
    encode left < encode right := by
  induction before with
  | @nil char rest =>
      obtain ⟨first, tail, written, _⟩ := decodeChar_encodeChar char []
      simp [encode, written]
  | @cons char leftRest rightRest _ inductionHypothesis =>
      exact List.Lex.append_left _ inductionHypothesis (String.utf8EncodeChar char)
  | rel before => exact utf8EncodeChar_append_lt before _ _

/-- Strings in order have their bytes in order. -/
theorem ofString_lt_ofString {left right : String} (before : left < right) :
    ofString left < ofString right :=
  encode_lt_encode before

end NodeGate.Text.Utf8
