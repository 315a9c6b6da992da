import NodeGate.CommandLine

/-!
# The program

The outer layer: it reads the settings file, prints what the command line reports and ends with
its code. A watch looks at the file every second and takes over each change that can be loaded,
until the program is stopped.
-/

namespace NodeGate.Program

open CommandLine

/-- The number of a system error. Its code may carry the number itself or its negation. -/
def errorNumber (code : UInt32) : Nat :=
  min code.toNat (UInt32.size - code.toNat)

/-- The fault that an error of reading a file stands for. -/
def faultOf (error : IO.Error) : FileFault :=
  match error with
  | .noFileOrDirectory .. => .missing
  | .permissionDenied .. => .notAllowed
  | .inappropriateType _ code _ => if errorNumber code = 20 then .notDirectory else .isDirectory
  | .invalidArgument _ code _ =>
    if errorNumber code = 36 then .nameTooLong else .other (toString error)
  | _ => .other (toString error)

/-- The bytes of a file. -/
def readFile (path : String) : IO (Except FileFault (List UInt8)) := do
  try
    return .ok (← IO.FS.readBinFile path).toList
  catch error =>
    return .error (faultOf error)

/-- Load the settings of a file. -/
def loadFile (path : String) : IO (Except LoadError Settings) :=
  return Settings.load (← readFile path)

/-- Follow the settings file and reload the node whenever its settings change. -/
partial def follow (path : String) (node : Node) (current : Settings) : IO Unit := do
  IO.sleep 1000
  match ← loadFile path with
  | .error _ => follow path node current
  | .ok next =>
    if next = current then follow path node current
    else
      let (node, ignored) := node.reload next
      IO.eprintln "Configuration reloaded"
      for change in ignored do
        IO.eprintln (change ++ " cannot change while the guard runs")
      follow path node next

/-- Print a report and give its code. -/
def finish (report : Report) : IO UInt32 := do
  IO.print report.output
  IO.eprint report.errors
  return report.exitCode.toUInt32

/-- The words for texts that cannot be read. -/
def complaints : Complaints where
  json := { identity := fun _ => "not an identity", address := fun _ => "not an address" }
  toml := fun _ => "not a settings file"

/-- Carry out an invocation. -/
def run (invocation : Invocation) : IO UInt32 := do
  let loaded ← loadFile invocation.configPath
  match invocation.command, loaded with
  | .watch, .ok settings =>
    follow invocation.configPath (Node.start complaints.json settings) settings
  | _, _ => pure ()
  finish (invocation.execute complaints loaded)

/-- Do what the arguments ask for. -/
def runArguments (arguments : List String) : IO UInt32 :=
  match parse arguments with
  | .invocation invocation => run invocation
  | .help text => finish { exitCode := 0, output := text }
  | .usageError =>
    finish { exitCode := 2, errors := "For more information, try '--help'.\n" }

end NodeGate.Program

/-- The program. -/
def main (arguments : List String) : IO UInt32 :=
  NodeGate.Program.runArguments arguments
