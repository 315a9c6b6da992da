import NodeGate.Text.Digits
import NodeGate.Toml.Reader

/-!
# Texts and keys

Quoted texts have escapes, literal texts have none; both may go over several lines between threes
of their quotation marks. A line end inside a text is a line feed, however it was written. A key
is bare, or quoted on one line, and keys are joined by points.
-/

namespace NodeGate.Toml

open Reader

/-- The characters that stand for themselves inside a text, its quotation mark and the backslash
apart: no control other than the tab. -/
def isTextChar (char : Char) : Bool :=
  isCommentChar char

/-- A character given by a number of hexadecimal digits. -/
def codePoint (digits : Nat) : Reader Char := do
  let chars ← times digits (satisfy (Text.isDigitOf 16))
  let value := Text.numeralValue 16 chars
  if value.isValidChar then return Char.ofNat value else failure

/-- The character after a backslash. -/
def escape : Reader Char := do
  char '\\'
  match ← satisfy fun _ => true with
  | 'b' => return Char.ofNat 8
  | 't' => return '\t'
  | 'n' => return '\n'
  | 'f' => return Char.ofNat 12
  | 'r' => return '\r'
  | '"' => return '"'
  | '\\' => return '\\'
  | 'u' => codePoint 4
  | 'U' => codePoint 8
  | _ => failure

/-- A character of a quoted text. -/
def quotedChar : Reader Char :=
  escape <|> satisfy fun char => isTextChar char && char ≠ '"' && char ≠ '\\'

/-- A character of a literal text. -/
def literalChar : Reader Char :=
  satisfy fun char => isTextChar char && char ≠ '\''

/-- A text on one line between two marks. -/
def shortText (mark : Char) (item : Reader Char) : Reader (List Char) := do
  char mark
  let chars ← many item
  char mark
  return chars

/-- One or two quotation marks that do not end a text of several lines. -/
def innerMarks (mark : Char) : Reader (List Char) := do
  let marks ← nonemptyRun (· = mark)
  if marks.length < 3 then return marks else failure

/-- Three marks end a text of several lines; up to two more before them belong to it. -/
def closingMarks (mark : Char) : Reader (List Char) := do
  let marks ← nonemptyRun (· = mark)
  if 3 ≤ marks.length ∧ marks.length ≤ 5 then return marks.drop 3 else failure

/-- A backslash at the end of a line takes the line end and the blanks and line ends after it. -/
def lineJoin : Reader (List Char) := do
  char '\\'
  blanks
  newline
  let _ ← many (newline <|> do let _ ← nonemptyRun fun char => char = ' ' || char = '\t')
  return []

/-- A text over several lines between threes of a mark. A line end right after the opening marks
is left out. -/
def longText (mark : Char) (item : Reader (List Char)) : Reader (List Char) := do
  char mark
  char mark
  char mark
  let _ ← optional? newline
  let pieces ← many (item <|> (newline *> pure ['\n']) <|> innerMarks mark)
  let final ← closingMarks mark
  return pieces.flatten ++ final

/-- A text in any of its four forms. -/
def text : Reader String :=
  String.ofList <$>
    (longText '"' (lineJoin <|> (fun char => [char]) <$> quotedChar) <|>
      longText '\'' ((fun char => [char]) <$> literalChar) <|>
      shortText '"' quotedChar <|> shortText '\'' literalChar)

/-- The characters of bare keys. -/
def isBareChar (char : Char) : Bool :=
  char.isAlphanum || char = '_' || char = '-'

/-- One key. -/
def simpleKey : Reader String :=
  String.ofList <$>
    (shortText '"' quotedChar <|> shortText '\'' literalChar <|> nonemptyRun isBareChar)

/-- The limit on the nesting of values and on the number of keys in a path. -/
def depthLimit : Nat := 80

/-- Keys joined by points, with blanks around each. -/
def keyPath : Reader (List String) := do
  let keys ← separated (char '.') (blanks *> simpleKey <* blanks)
  if keys.length < depthLimit then return keys else failure

end NodeGate.Toml
