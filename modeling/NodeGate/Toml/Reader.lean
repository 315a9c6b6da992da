/-!
# Readers

A reader takes what it understands from the front of a text. It either answers with a value and
what is left, or refuses and has taken nothing. Repetition is bounded by the length of the text,
which no reader that takes something can exceed.
-/

namespace NodeGate.Toml

/-- A reader of characters. -/
abbrev Reader (Value : Type) := StateT (List Char) Option Value

namespace Reader

/-- The next character, where it is of a class. -/
def satisfy (accepts : Char → Bool) : Reader Char := fun text =>
  match text with
  | char :: rest => if accepts char then some (char, rest) else none
  | [] => none

/-- One given character. -/
def char (expected : Char) : Reader Unit := do
  let _ ← satisfy (· = expected)

/-- The characters of a word. -/
def word (expected : String) : Reader Unit :=
  expected.toList.forM char

/-- The longest run of characters of a class. -/
def run (accepts : Char → Bool) : Reader (List Char) := fun text =>
  some (text.takeWhile accepts, text.dropWhile accepts)

/-- The longest nonempty run of characters of a class. -/
def nonemptyRun (accepts : Char → Bool) : Reader (List Char) := do
  let chars ← run accepts
  if chars = [] then failure else return chars

/-- The next character, without taking it. -/
def peek : Reader (Option Char) := fun text => some (text.head?, text)

/-- What an optional part says, where it stands. -/
def optional? {Value : Type} (part : Reader Value) : Reader (Option Value) :=
  (some <$> part) <|> pure none

/-- At most a number of repetitions. -/
def manyWithin {Value : Type} (item : Reader Value) : Nat → Reader (List Value)
  | 0 => pure []
  | bound + 1 => fun text =>
    match item text with
    | some (value, rest) => (manyWithin item bound rest).map fun (values, left) =>
        (value :: values, left)
    | none => some ([], text)

/-- As many repetitions as there are. -/
def many {Value : Type} (item : Reader Value) : Reader (List Value) := fun text =>
  manyWithin item text.length text

/-- One or more items with a separator between each two. -/
def separated {Value : Type} (separator : Reader Unit) (item : Reader Value) :
    Reader (List Value) := do
  let first ← item
  let others ← many (separator *> item)
  return first :: others

/-- The end of the text. -/
def finish : Reader Unit := fun text =>
  if text = [] then some ((), []) else none

/-- A given number of repetitions. -/
def times {Value : Type} (count : Nat) (item : Reader Value) : Reader (List Value) :=
  (List.range count).mapM fun _ => item

end Reader

open Reader

/-- Blanks inside a line. -/
def blanks : Reader Unit := do
  let _ ← run fun char => char = ' ' || char = '\t'

/-- The end of a line, with or without a carriage return. -/
def newline : Reader Unit :=
  char '\n' <|> (char '\r' *> char '\n')

/-- The characters that may stand in a comment: no control other than the tab. -/
def isCommentChar (char : Char) : Bool :=
  char = '\t' || (0x20 ≤ char.toNat && char.toNat ≠ 0x7F)

/-- A comment up to the end of its line. -/
def comment : Reader Unit := do
  char '#'
  let _ ← run isCommentChar

/-- What may stand behind a statement: blanks, a comment, and the end of the line or the text. -/
def lineEnd : Reader Unit := do
  blanks
  let _ ← optional? comment
  newline <|> finish

/-- What may stand between the items of an array: blanks, comments and line ends. -/
def spacing : Reader Unit := do
  blanks
  let _ ← many ((newline <|> (comment *> newline)) *> blanks)

end NodeGate.Toml
