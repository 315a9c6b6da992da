import NodeGate.Config.Loading
import NodeGate.Node

/-!
# The command line

The operator's program has three commands: `validate` loads the settings and prints them in short,
`check-index` decides on one request for indices, and `watch` runs the guard. `parse` understands
the arguments from left to right and stops at the first fault; `Invocation.execute` does what they
ask for.

An option whose value is attached to it is checked at once. One whose value is the next argument is
checked when the next option begins or when its level ends, and the program's level ends only after
the command's. So a request for help that comes first is answered.
-/

namespace NodeGate.CommandLine

/-- What the program is asked to do. -/
inductive Command where
  | validate
  | checkIndex (action : String) (indices : List String) (all : Bool)
  | watch
  deriving DecidableEq, Repr

/-- A command with the path of the settings file. -/
structure Invocation where
  configPath : String
  command : Command
  deriving DecidableEq, Repr

/-- What the arguments come to. -/
inductive Parsed where
  | invocation (invocation : Invocation)
  /-- The text of the help that was asked for. -/
  | help (text : String)
  /-- The arguments cannot be understood. -/
  | usageError
  deriving DecidableEq, Repr

/-- What the program prints and the code it ends with. -/
structure Report where
  exitCode : Nat
  output : String := ""
  errors : String := ""
  deriving DecidableEq, Repr

/-- The settings file that is read when none is named. -/
def defaultConfigPath : String := "cluster-guard.toml"

/-- The options and flags that some command knows. -/
inductive Opt where
  | config
  | action
  | index
  | all
  | help
  deriving DecidableEq, Repr

/-- Whether an option is followed by a value. -/
def Opt.takesValue : Opt → Bool
  | .config | .action | .index => true
  | .all | .help => false

/-- The long name of an option. -/
def Opt.longName : Opt → String
  | .config => "config"
  | .action => "action"
  | .index => "index"
  | .all => "all"
  | .help => "help"

/-- The letter of an option, if it has one. -/
def Opt.letter? : Opt → Option Char
  | .config => some 'c'
  | .action => some 'a'
  | .index => some 'i'
  | .all => none
  | .help => some 'h'

/-- One occurrence of an option with its value, which is empty for a flag. -/
structure Occurrence where
  option : Opt
  value : String := ""
  deriving DecidableEq, Repr

/-- How reading one argument ends. -/
inductive Reading where
  /-- An option is complete. -/
  | complete (occurrence : Occurrence)
  /-- The value of an option is the next argument. -/
  | needsValue (option : Opt)
  /-- The argument ends the options. -/
  | endOfOptions
  /-- The argument is no option. -/
  | word (text : String)
  | fault
  deriving DecidableEq, Repr

/-- Read an argument that begins with two hyphens. -/
def readLong (known : List Opt) (text : List Char) : Reading :=
  let name := text.takeWhile (· ≠ '=')
  let value := (text.dropWhile (· ≠ '=')).tail?
  match known.find? fun option => option.longName.toList = name with
  | none => .fault
  | some option =>
    match value with
    | some value => if option.takesValue then .complete ⟨option, String.ofList value⟩ else .fault
    | none => if option.takesValue then .needsValue option else .complete ⟨option, ""⟩

/-- Read an argument that begins with one hyphen and a letter. A value may follow the letter, with
or without an equals sign. -/
def readShort (known : List Opt) (letter : Char) (rest : List Char) : Reading :=
  match known.find? fun option => option.letter? = some letter with
  | none => .fault
  | some option =>
    if option.takesValue then
      match rest with
      | [] => .needsValue option
      | '=' :: value => .complete ⟨option, String.ofList value⟩
      | value => .complete ⟨option, String.ofList value⟩
    else .complete ⟨option, ""⟩

/-- Read one argument. A hyphen alone is a word. -/
def readArgument (known : List Opt) (text : String) : Reading :=
  match text.toList with
  | ['-', '-'] => .endOfOptions
  | '-' :: '-' :: rest => readLong known rest
  | ['-'] => .word text
  | '-' :: letter :: rest => readShort known letter rest
  | _ => .word text

/-- Whether an argument may stand as the value of the option before it. -/
def isValue (text : String) : Bool :=
  match text.toList with
  | ['-'] => true
  | '-' :: _ => false
  | _ => true

/-- Whether one more occurrence of an option is acceptable: only an index may be repeated, and the
path of the settings is not empty. -/
def accepts (occurrences : List Occurrence) (next : Occurrence) : Bool :=
  (next.option = .index || !occurrences.any (·.option = next.option)) &&
    !(next.option = .config && next.value = "")

/-- The options that were read so far. The value of the last one may have been an argument of its
own; that occurrence waits to be accepted until the next option begins or its level ends. -/
structure OptionsRead where
  accepted : List Occurrence := []
  waiting : Option Occurrence := none
  deriving DecidableEq, Repr

/-- All occurrences, unless the one that waits is not acceptable. -/
def OptionsRead.settled? (options : OptionsRead) : Option (List Occurrence) :=
  match options.waiting with
  | none => some options.accepted
  | some next => if accepts options.accepted next then some (options.accepted ++ [next]) else none

/-- What reading the options of one level comes to. -/
inductive Level where
  /-- All arguments were options. -/
  | finished (occurrences : List Occurrence)
  /-- A word was met; these arguments follow it. The level has not ended yet. -/
  | stopped (options : OptionsRead) (word : String) (rest : List String)
  | help
  | fault
  deriving DecidableEq, Repr

/-- A level that ends where all its arguments are read. -/
def OptionsRead.finish (options : OptionsRead) : Level :=
  match options.settled? with
  | some occurrences => .finished occurrences
  | none => .fault

/-- Read the options of one level up to the first word. -/
def readLevel (known : List Opt) (options : OptionsRead) : List String → Level
  | [] => options.finish
  | argument :: rest =>
    match readArgument known argument with
    | .complete next =>
      match options.settled? with
      | some accepted =>
        if next.option = .help then .help
        else if accepts accepted next then
          readLevel known { accepted := accepted ++ [next] } rest
        else .fault
      | none => .fault
    | .needsValue option =>
      match options.settled? with
      | some accepted =>
        match rest with
        | value :: rest =>
          if isValue value then readLevel known { accepted, waiting := some ⟨option, value⟩ } rest
          else .fault
        | [] => .fault
      | none => .fault
    | .word text => .stopped options text rest
    | .endOfOptions => if rest = [] then options.finish else .fault
    | .fault => .fault

/-- The value of an option, if it occurs. -/
def valueOf? (occurrences : List Occurrence) (option : Opt) : Option String :=
  (occurrences.find? (·.option = option)).map (·.value)

/-- The lines of a help text. -/
def helpText (lines : List String) : String :=
  "\n".intercalate lines ++ "\n"

/-- The line about the settings file. -/
def configLine : String :=
  "  -c, --config <CONFIG>  Path to the TOML configuration file [default: cluster-guard.toml]"

/-- The line about the help itself. -/
def helpLine : String :=
  "  -h, --help             Print help"

/-- The help of the program. -/
def programHelp : String :=
  helpText
    ["Security interception for the cluster transport layer", "",
      "Usage: cluster-guard [OPTIONS] <COMMAND>", "",
      "Commands:",
      "  validate     Load and validate the configuration",
      "  check-index  Evaluate an index request against the protected index",
      "  watch        Run the guard runtime and apply config changes until stopped",
      "  help         Print this message or the help of the given subcommand(s)", "",
      "Options:", configLine, helpLine]

/-- The help of a command that has no options of its own. -/
def plainHelp (about name : String) : String :=
  helpText
    [about, "", "Usage: cluster-guard " ++ name ++ " [OPTIONS]", "", "Options:", configLine,
      helpLine]

/-- The help of the command that decides on indices. -/
def checkIndexHelp : String :=
  helpText
    ["Evaluate an index request against the protected index", "",
      "Usage: cluster-guard check-index [OPTIONS] --action <ACTION>", "",
      "Options:",
      "  -a, --action <ACTION>  Action name, e.g. indices:data/write/index", configLine,
      "  -i, --index <INDICES>  Resolved target index (repeatable)",
      "      --all              The request targets all indices", helpLine]

/-- The help of the help. -/
def helpHelp : String :=
  helpText
    ["Print this message or the help of the given subcommand(s)", "",
      "Usage: cluster-guard help [COMMAND]...", "",
      "Arguments:",
      "  [COMMAND]...  Print help for the subcommand(s)"]

/-- The help that is asked for by name. -/
def helpFor : List String → Parsed
  | [] => .help programHelp
  | ["validate"] => .help (plainHelp "Load and validate the configuration" "validate")
  | ["watch"] =>
    .help (plainHelp "Run the guard runtime and apply config changes until stopped" "watch")
  | ["check-index"] => .help checkIndexHelp
  | ["help"] => .help helpHelp
  | _ => .usageError

/-- Read the options of a command. The path of the settings may be named before or after the
command, and the later one counts. The level before the command ends after the command's own, so
help on the command is given whatever still waits there. -/
def parseCommand (before : OptionsRead) (name : String) (own : List Opt)
    (build : List Occurrence → Option Command) (arguments : List String) : Parsed :=
  match readLevel (.config :: .help :: own) {} arguments with
  | .finished occurrences =>
    match before.settled?, build occurrences with
    | some before, some command =>
      let path := valueOf? occurrences .config <|> valueOf? before .config
      .invocation ⟨path.getD defaultConfigPath, command⟩
    | _, _ => .usageError
  | .stopped _ _ _ => .usageError
  | .help => helpFor [name]
  | .fault => .usageError

/-- The request that the options of `check-index` describe. The action has to be given. -/
def buildCheckIndex (occurrences : List Occurrence) : Option Command := do
  let action ← valueOf? occurrences .action
  let indices := (occurrences.filter (·.option = .index)).map (·.value)
  return .checkIndex action indices (occurrences.any (·.option = .all))

/-- What the arguments ask for. -/
def parse (arguments : List String) : Parsed :=
  match readLevel [.config, .help] {} arguments with
  | .stopped before word rest =>
    if word = "validate" then parseCommand before word [] (fun _ => some .validate) rest
    else if word = "watch" then parseCommand before word [] (fun _ => some .watch) rest
    else if word = "check-index" then
      parseCommand before word [.action, .index, .all] buildCheckIndex rest
    else if word = "help" then helpFor rest
    else .usageError
  | .help => .help programHelp
  | .finished _ | .fault => .usageError

/-- The lines of an output. -/
def printLines (lines : List String) : String :=
  String.join (lines.map (· ++ "\n"))

/-- A flag that may be unset, as it is printed. -/
def printFlag : Option Bool → String
  | none => "None"
  | some value => "Some(" ++ toString value ++ ")"

/-- Settings in short. -/
def summary (path : String) (settings : Settings) : String :=
  printLines
    [path ++ ": ok",
      "  cluster          " ++ settings.cluster.name,
      "  protected index  " ++ settings.protectedIndex.name,
      "  filter mode      " ++ toString settings.protectedIndex.filterMode,
      "  restore enabled  " ++ toString settings.protectedIndex.restoreEnabled,
      "  node patterns    " ++ toString settings.transport.nodesDn.length,
      "  principals       " ++ toString settings.authentication.principals.length,
      "  audit            " ++ if settings.audit.enabled then "on" else "off"]

/-- What the readers of JSON and TOML say of what they refuse. -/
structure Complaints where
  json : HeaderValue.Complaints
  toml : String → String

/-- Decide on one request for indices and print the decision. A denial is a failure. -/
def checkReport (complaints : Complaints) (settings : Settings) (action : String)
    (indices : List String) (all : Bool) : Report :=
  let resolved := if all then .all else ResolvedIndices.ofList indices
  let request : IndicesRequest := { targets := if all then ["_all"] else indices }
  let summary : RequestSummary := { action, requestClass := "IndicesRequest" }
  let guard := (Node.start complaints.json settings).guard
  let (_, decision, after) := guard.evaluate action request resolved summary
  { exitCode := if decision.isAllowed then 0 else 1
    output := printLines
      ["decision       " ++ decision.kind.name,
        "targets        " ++ ",".intercalate after.targets,
        "request_cache  " ++ printFlag after.requestCache,
        "realtime       " ++ printFlag after.realtime] }

/-- What a command reports on settings that were loaded. Watching reports nothing by itself. -/
def Command.report (complaints : Complaints) (path : String) (settings : Settings) :
    Command → Report
  | .validate => { exitCode := 0, output := summary path settings }
  | .checkIndex action indices all => checkReport complaints settings action indices all
  | .watch => { exitCode := 0 }

/-- What an invocation reports, given what loading its settings came to. -/
def Invocation.execute (complaints : Complaints) (invocation : Invocation)
    (loaded : Except LoadError Settings) : Report :=
  match loaded with
  | .error error =>
    let message := error.message complaints.toml
    { exitCode := 1, errors := invocation.configPath ++ ": " ++ message ++ "\n" }
  | .ok settings => invocation.command.report complaints invocation.configPath settings

end NodeGate.CommandLine
