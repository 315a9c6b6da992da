/-!
# Reading numerals

A numeral is read as the longest run of digits of its base. Writing is core's `Nat.toDigits`.
-/

namespace NodeGate.Text

/-- The value of a character as a digit of a base up to sixteen; letters count in either case. -/
def digitValue? (base : Nat) (char : Char) : Option Nat :=
  let code := char.toNat
  let value :=
    if 48 ≤ code ∧ code ≤ 57 then some (code - 48)
    else if 97 ≤ code ∧ code ≤ 102 then some (code - 87)
    else if 65 ≤ code ∧ code ≤ 70 then some (code - 55)
    else none
  value.filter (· < base)

/-- Whether a character is a digit of the base. -/
def isDigitOf (base : Nat) (char : Char) : Bool :=
  (digitValue? base char).isSome

/-- The number that digits write, the most significant first. -/
def numeralValue (base : Nat) (digits : List Char) : Nat :=
  digits.foldl (fun value digit => value * base + (digitValue? base digit).getD 0) 0

/-- The run of digits at the front of a text, and the text after it. -/
def spanDigits (base : Nat) (text : List Char) : List Char × List Char :=
  (text.takeWhile (isDigitOf base), text.dropWhile (isDigitOf base))

end NodeGate.Text
