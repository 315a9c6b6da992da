import NodeGate.Toml.Item
import NodeGate.Toml.Scalar
import NodeGate.Toml.Text

/-!
# Documents

A document is a sequence of lines: statements that give an item under a path of keys, headers that
say where the following statements belong, comments and empty lines. `document` is the table that
a text describes.
-/

namespace NodeGate.Toml

open Reader

/-- A value that holds no other. -/
def scalar : Reader Item :=
  (.text <$> text) <|>
    (word "true" *> pure (.bool true)) <|>
    (word "false" *> pure (.bool false)) <|>
    (dateTime *> pure .date) <|>
    ((decimalFraction <|> specialNumber <|> integer) *> pure .number)

mutual

/-- A value, with a bound on the work and room for so many levels inside it. -/
def value : Nat → Nat → Reader Item
  | bound + 1, room + 1 =>
    scalar <|> (.array <$> array bound room) <|> (.inline .explicit <$> inlineTable bound room)
  | _, 0 => scalar
  | 0, _ => failure

/-- An array: items with commas between them, and perhaps one after the last. -/
def array : Nat → Nat → Reader (List Item)
  | bound + 1, room => do
    char '['
    spacing
    let items ← (do
      let items ← separated (char ',' *> spacing) (value bound room <* spacing)
      let _ ← optional? (char ',' *> spacing)
      return items) <|> pure []
    char ']'
    return items
  | 0, _ => failure

/-- A table on one line: statements with commas between them. -/
def inlineTable : Nat → Nat → Reader Entries
  | bound + 1, room => do
    char '\x7b'
    blanks
    let pairs ← separated (char ',') (do
      let path ← keyPath
      char '='
      blanks
      let item ← value bound room
      blanks
      return (path, item)) <|> pure []
    char '\x7d'
    match inlineEntries pairs with
    | some entries => return entries
    | none => failure
  | 0, _ => failure

end

/-- A statement. -/
def statement (bound : Nat) (draft : Draft) : Reader Draft := do
  let path ← keyPath
  char '='
  blanks
  let item ← value bound (depthLimit - 1)
  lineEnd
  match draft.assign path item with
  | some draft => return draft
  | none => failure

/-- A header. -/
def header (draft : Draft) : Reader Draft := do
  char '['
  let repeated ← (char '[' *> pure true) <|> pure false
  let path ← keyPath
  char ']'
  if repeated then char ']'
  lineEnd
  match draft.openHeader repeated path with
  | some draft => return draft
  | none => failure

/-- One line, with the blanks before it. -/
def line (bound : Nat) (draft : Draft) : Reader Draft := do
  blanks
  match ← peek with
  | none => failure
  | some '#' =>
    lineEnd
    return draft
  | some '\n' | some '\r' =>
    newline
    return draft
  | some '[' => header draft
  | some _ => statement bound draft

/-- All lines up to the end. -/
def lines (bound : Nat) : Nat → Draft → Reader Draft
  | 0, draft => blanks *> finish *> pure draft
  | count + 1, draft => fun text =>
    match line bound draft text with
    | some (draft, rest) => lines bound count draft rest
    | none => StateT.run (blanks *> finish *> pure draft) text

/-- The text without the mark that may stand in front of it. -/
def withoutMark (text : List Char) : List Char :=
  match text with
  | [] => []
  | first :: rest => if first.toNat = 0xFEFF then rest else first :: rest

/-- The table that a text describes. -/
def document (text : String) : Option Entries :=
  let chars := withoutMark text.toList
  (StateT.run (lines (2 * chars.length + 2) chars.length {}) chars).map (·.1.entries)

end NodeGate.Toml
