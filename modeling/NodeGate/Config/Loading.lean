import NodeGate.Config.FileTree
import NodeGate.Config.Validation
import NodeGate.Config.Value
import NodeGate.Text.Utf8
import NodeGate.Toml.Document

/-!
# Loading settings

A settings file is a TOML text. Loading fails when there is no file or it is no text, when the
text is no TOML or not of the right shape, and when the settings violate a rule.
-/

namespace NodeGate

open Toml

mutual

/-- The value that a TOML item says. A date stands for a table with one name that means
nothing. -/
def Value.ofItem : Item → Value
  | .text value => .text value
  | .bool value => .bool value
  | .number => .number
  | .date => .table [("", .number)]
  | .array items => .list (ofItems items)
  | .inline _ entries => .table (ofEntries entries)
  | .table _ entries => .table (ofEntries entries)
  | .tables elements => .list (ofElements elements)

/-- The values of a list of items. -/
def Value.ofItems : List Item → List Value
  | [] => []
  | item :: rest => ofItem item :: ofItems rest

/-- The values of the entries of a table. -/
def Value.ofEntries : List (String × Item) → List (String × Value)
  | [] => []
  | (key, item) :: rest => (key, ofItem item) :: ofEntries rest

/-- The tables of a repeated header. -/
def Value.ofElements : List (List (String × Item)) → List Value
  | [] => []
  | entries :: rest => .table (ofEntries entries) :: ofElements rest

end

/-- Why settings could not be loaded. -/
inductive LoadError where
  /-- The file could not be read. -/
  | file (fault : FileFault)
  /-- The text is no TOML, or not of the shape of settings. -/
  | syntaxFault (text : String)
  | invalid (problems : List Problem)
  deriving DecidableEq, Repr

/-- The wording of an error, given what the TOML reader says of a text that it refuses. -/
def LoadError.message (complaint : String → String) : LoadError → String
  | .file fault => "IO error: " ++ fault.message
  | .syntaxFault text => "Parse error: " ++ complaint text
  | .invalid problems => "Validation failed: " ++ ", ".intercalate (problems.map (·.text))

namespace Settings

/-- The settings of a text. -/
def parse (text : String) : Except LoadError Settings :=
  match (document text).bind fun entries =>
      ofValue? Value.tomlDialect (.table (Value.ofEntries entries)) with
  | none => .error (.syntaxFault text)
  | some settings =>
    if settings.isValid then .ok settings else .error (.invalid settings.problems)

/-- The settings of a file, given what reading it came to. -/
def load (contents : Except FileFault (List UInt8)) : Except LoadError Settings :=
  match contents with
  | .error fault => .error (.file fault)
  | .ok bytes =>
    match Text.Utf8.toString? bytes with
    | none => .error (.file .noText)
    | some text => parse text

end Settings

end NodeGate
