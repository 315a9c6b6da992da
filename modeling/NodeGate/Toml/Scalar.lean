import NodeGate.Text.Digits
import NodeGate.Toml.Reader

/-!
# Numbers and dates

No setting holds a number or a date, so they are only checked: integers have sixty-four bits,
decimal fractions are not past the largest finite one, and dates and times exist in the calendar.
-/

namespace NodeGate.Toml

open Reader

/-- Digits of a base, with single underscores between digits. -/
def digits (base : Nat) : Reader (List Char) := do
  let first ← satisfy (Text.isDigitOf base)
  let others ← many (optional? (char '_') *> satisfy (Text.isDigitOf base))
  return first :: others

/-- A sign, where one stands; whether it is a minus. -/
def sign : Reader Bool :=
  (char '-' *> pure true) <|> (char '+' *> pure false) <|> pure false

/-- The digits of a decimal whole number: a zero alone, or digits that do not begin with one. -/
def wholeDigits : Reader (List Char) := do
  if (← peek) = some '0' then
    char '0'
    return ['0']
  else digits 10

/-- The first whole number past those of sixty-four bits with a sign. -/
def wholeLimit : Nat := 0x8000000000000000

/-- A whole number in another base, after a zero and a letter. -/
def basedInteger (letter : Char) (base : Nat) : Reader Unit := do
  char '0'
  char letter
  let chars ← digits base
  if Text.numeralValue base chars < wholeLimit then return () else failure

/-- A decimal whole number. -/
def decimalInteger : Reader Unit := do
  let negative ← sign
  let value := Text.numeralValue 10 (← wholeDigits)
  if value < wholeLimit ∨ (negative ∧ value = wholeLimit) then return () else failure

/-- A whole number. -/
def integer : Reader Unit :=
  basedInteger 'x' 16 <|> basedInteger 'o' 8 <|> basedInteger 'b' 2 <|> decimalInteger

/-- The exponent of a decimal fraction, as a sign and digits. -/
def exponent : Reader Int := do
  let _ ← satisfy fun char => char = 'e' || char = 'E'
  let negative ← sign
  let value : Int := Text.numeralValue 10 (← digits 10)
  return if negative then -value else value

/-- Whether digits with a power of ten are past the largest finite number of double precision.
The limit lies half a unit past that number. -/
def isPastFinite (mantissa : Nat) (power : Int) : Bool :=
  let length : Int := (Nat.toDigits 10 mantissa).length
  if mantissa = 0 ∨ length + power ≤ 308 then false
  else if 309 < length + power then true
  else
    let limit := Nat.pow 2 1024 - Nat.pow 2 970
    decide (limit * Nat.pow 10 (-power).toNat ≤ mantissa * Nat.pow 10 power.toNat)

/-- A decimal fraction. Digits too large to be finite are refused unless they are negative. -/
def decimalFraction : Reader Unit := do
  let negative ← sign
  let whole ← wholeDigits
  let fraction ← (char '.' *> digits 10) <|> pure []
  let power ← optional? exponent
  if fraction = [] ∧ power = none then failure
  let mantissa := Text.numeralValue 10 (whole ++ fraction)
  if !negative && isPastFinite mantissa (power.getD 0 - fraction.length) then failure

/-- Infinity and what is no number. -/
def specialNumber : Reader Unit := do
  let _ ← sign
  word "inf" <|> word "nan"

/-- A decimal number of a fixed count of digits. -/
def fixedNumber (count : Nat) : Reader Nat := do
  return Text.numeralValue 10 (← times count (satisfy (Text.isDigitOf 10)))

/-- The number of days of a month. -/
def daysIn (year month : Nat) : Nat :=
  if month = 2 then
    if year % 4 = 0 ∧ (year % 100 ≠ 0 ∨ year % 400 = 0) then 29 else 28
  else if month = 4 ∨ month = 6 ∨ month = 9 ∨ month = 11 then 30
  else 31

/-- A day of the calendar. -/
def date : Reader Unit := do
  let year ← fixedNumber 4
  char '-'
  let month ← fixedNumber 2
  char '-'
  let day ← fixedNumber 2
  if 1 ≤ month ∧ month ≤ 12 ∧ 1 ≤ day ∧ day ≤ daysIn year month then return () else failure

/-- An hour and a minute. -/
def hourMinute : Reader Unit := do
  let hour ← fixedNumber 2
  char ':'
  let minute ← fixedNumber 2
  if hour < 24 ∧ minute < 60 then return () else failure

/-- A time of day; a minute may have a leap second. -/
def time : Reader Unit := do
  hourMinute
  char ':'
  let second ← fixedNumber 2
  if 60 < second then failure
  let _ ← optional? (char '.' *> nonemptyRun (Text.isDigitOf 10))

/-- The distance of a time from the meridian. -/
def timeOffset : Reader Unit :=
  (do let _ ← satisfy fun char => char = 'Z' || char = 'z') <|>
    ((char '+' <|> char '-') *> hourMinute)

/-- A date, a time, or both. -/
def dateTime : Reader Unit :=
  (do
    date
    let _ ← optional? do
      let _ ← satisfy fun char => char = 'T' || char = 't' || char = ' '
      time
      optional? timeOffset) <|> time

end NodeGate.Toml
