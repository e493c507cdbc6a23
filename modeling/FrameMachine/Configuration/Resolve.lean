import FrameMachine.Configuration.Document
import FrameMachine.Configuration.Dotenv
import FrameMachine.Configuration.Variables
import FrameMachine.Directory

/-! The configuration in force. Layers are laid over each other: the defaults, a TOML document,
environment variables, and what the caller asks for. A file may add to the environment first. -/

namespace FrameMachine

/-- What a program sees of the world around it. -/
structure Surroundings where
  directory : Directory
  environment : Environment
deriving Inhabited

namespace Configuration

inductive Problem where
  /-- The document is missing, or is no document. -/
  | sources
  /-- A setting has the wrong kind or is out of range. -/
  | conversion
  | zeroDepth
deriving DecidableEq, Inhabited

def Problem.message : Problem → String
  | .sources => "Failed to read configuration sources"
  | .conversion => "Invalid configuration"
  | .zeroDepth => "engine.max_depth must be at least 1"

/-- The environment with the variables that a file adds to it. The file may stand in the working directory
or in one above it. -/
def environment (surroundings : Surroundings) : Environment :=
  match surroundings.directory.readUpward? ".env" with
  | some text => Dotenv.load surroundings.environment text
  | none => surroundings.environment

/-- The parts of a path without the empty ones and single points at its end. -/
def trimPath (path : String) : List String :=
  ((Directory.names path).reverse.dropWhile fun name => name = "" ∨ name = ".").reverse

/-- The path with the extension of a TOML document, if it ends in a name. -/
def withExtension? (path : String) : Option String :=
  match (trimPath path).getLast? with
  | none => none
  | some name => if name = ".." then none else some ("/".intercalate (trimPath path) ++ ".toml")

/-- The document at a path, or else at the path with an extension. It is read under its full
path. -/
def find? (directory : Directory) (path : String) : Option String :=
  match directory.readInFull? path with
  | some text => some text
  | none => (withExtension? path).bind directory.readInFull?

/-- The path that must lead to a document: the caller's, or else the environment's. -/
def requiredPath? (path : Option String) (environment : Environment) : Option String :=
  path <|> environment.lookup "KERNEL_CONFIG_PATH"

/-- The document's text. Without a path a document may be missing. -/
def document (directory : Directory) (required : Option String) : Except Problem String :=
  match required with
  | some path =>
    match find? directory path with
    | some text => .ok text
    | none => .error .sources
  | none => .ok ((find? directory "kernel").getD "")

/-- The settings of a document and of an environment over it. -/
def settings (text : String) (environment : Environment) : Except Problem Setting :=
  match Setting.ofDocument? text with
  | none => .error .sources
  | some entries =>
    .ok (((Setting.table []).layer entries).layer (Variables.settings environment))

/-- What a caller asks for. -/
structure Request where
  path : Option String
  maxDepth : Option UInt64
  traceEnabled : Option Bool
deriving Inhabited

/-- Puts what the caller asks for in place, and refuses a depth of zero. -/
def override (request : Request) (config : Configuration) : Except Problem Configuration :=
  let config : Configuration :=
    ⟨request.maxDepth.getD config.maxDepth, request.traceEnabled.getD config.traceEnabled⟩
  if config.maxDepth = 0 then .error .zeroDepth else .ok config

/-- The configuration in force. A setting that does not convert is a problem even if the caller asks
for another value. -/
def resolve (surroundings : Surroundings) (request : Request) : Except Problem Configuration := do
  let environment := environment surroundings
  let text ← document surroundings.directory (requiredPath? request.path environment)
  let root ← settings text environment
  match ofSettings? root with
  | none => .error .conversion
  | some config => override request config

end Configuration

end FrameMachine
