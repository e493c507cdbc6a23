import FrameMachine.CommandLine.Perform

/-! The program: it gathers what the command needs to see, performs the command, and prints. -/

namespace FrameMachine.Main

open CommandLine

/-- A file as a listing of one, or of none if it cannot be read. -/
def listed (path : String) : IO (List (String × String)) := do
  try
    let text ← IO.FS.readFile path
    return [(path, text)]
  catch _ => return []

/-- The environment of the process. -/
def environment : IO Environment := do
  let files ← listed "/proc/self/environ"
  let text := String.join (files.map (·.2))
  return (text.splitOn "\x00").filterMap fun entry =>
    match entry.splitOn "=" with
    | name :: first :: rest => some (name, "=".intercalate (first :: rest))
    | _ => none

def fileOf : Command → List String
  | .run file _ _ _ => [file]
  | .list file => [file]
  | .config => []

/-- The paths that may be read besides the files that may add to the environment. -/
def paths (invocation : Invocation) (environment : Environment) : List String :=
  let path := (Configuration.requiredPath? invocation.config environment).getD "kernel"
  path :: (Configuration.withExtension? path).toList ++ fileOf invocation.command

/-- The paths at which a file may add to the environment, from the working directory up to the root. -/
def environmentPaths (location : String) : List String :=
  let levels := (Directory.mk location []).here.length
  (List.range (levels + 1)).map fun up => String.join (List.replicate up "../") ++ ".env"

def surroundings (invocation : Invocation) : IO Surroundings := do
  let location := (← IO.currentDir).toString
  let added ← (environmentPaths location).mapM listed
  let start : Surroundings := ⟨⟨location, added.flatten⟩, ← environment⟩
  let files ← (paths invocation (Configuration.environment start)).mapM listed
  return ⟨⟨location, start.directory.files ++ files.flatten⟩, start.environment⟩

def logLine : LogRecord → Option String
  | .running file instructions maxDepth =>
    some ("INFO running function body file=" ++ file ++ " instructions="
      ++ Decimal.text instructions ++ " max_depth=" ++ Decimal.text maxDepth.toNat)
  | _ => none

def usageText (e : UsageError) : String :=
  "Usage: kernel [--config CONFIG] run FILE [--trace] [--max-depth N] [--json]\n"
    ++ "       kernel [--config CONFIG] show FILE\n"
    ++ "       kernel [--config CONFIG] config\n"
    ++ (if e = .help then "" else "error: " ++ e.kind ++ "\n")

/-- Performs the command that the arguments say. The result is the exit code. -/
def run (arguments : List String) : IO UInt32 := do
  match parse arguments with
  | .error e =>
    if e = .help then
      IO.print (usageText e)
      return 0
    else
      IO.eprint (usageText e)
      return 2
  | .ok invocation =>
    let report := perform (← surroundings invocation) invocation
    for line in report.log.filterMap logLine do
      IO.eprintln line
    IO.print report.printed
    match report.result with
    | .ok _ => return 0
    | .error failure =>
      IO.eprintln ("Error: " ++ ": ".intercalate failure.messages)
      return 1

end FrameMachine.Main

def main (arguments : List String) : IO UInt32 := FrameMachine.Main.run arguments
