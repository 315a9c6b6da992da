import NodeGate.Text.Glyphless

/-!
# Quoted texts for logs

A quoted text stands between quotation marks and on one line, and shows every character that
could be mistaken: quotation marks and backslashes are escaped, the common controls by a letter,
and other characters without a glyph by their code in hexadecimal.
-/

namespace NodeGate.Text

/-- One character inside quotation marks. -/
def quoteChar (char : Char) : List Char :=
  if char = '"' then ['\\', '"']
  else if char = '\\' then ['\\', '\\']
  else if char = '\n' then ['\\', 'n']
  else if char = '\r' then ['\\', 'r']
  else if char = '\t' then ['\\', 't']
  else if char = Char.ofNat 0 then ['\\', '0']
  else if isGlyphless char then
    '\\' :: 'u' :: '\x7b' :: Nat.toDigits 16 char.toNat ++ ['\x7d']
  else [char]

/-- A text between quotation marks. -/
def quote (text : String) : String :=
  String.ofList ('"' :: text.toList.flatMap quoteChar ++ ['"'])

end NodeGate.Text
