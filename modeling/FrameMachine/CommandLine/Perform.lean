import FrameMachine.CommandLine.Arguments
import FrameMachine.Configuration.Resolve
import FrameMachine.FunctionBody.Json
import FrameMachine.Instruction.Text

/-! The commands of the command line. A command prints text, leaves records in the log, and may end
in a failure. -/

namespace FrameMachine.CommandLine

inductive Failure where
  | configuration (problem : Configuration.Problem)
  | unreadable (file : String)
  | notABody (file problem : String)
  | execution (file : String) (fault : Fault)
  | rendering
deriving Inhabited

namespace Failure

/-- What is said of a failure, its cause last. -/
def messages : Failure → List String
  | .configuration problem => ["Failed to load configuration", problem.message]
  | .unreadable file => ["Failed to read " ++ file]
  | .notABody file problem => ["Invalid function body in " ++ file, problem]
  | .execution file fault => ["Execution of " ++ file ++ " failed", fault.message]
  | .rendering => [Configuration.renderMessage]

def fault? : Failure → Option Fault
  | .execution _ fault => some fault
  | _ => none

end Failure

/-- What a command did: the text that it came to, or its failure. -/
structure Report where
  result : Except Failure String
  log : List LogRecord
deriving Inhabited

/-- What a command prints. A command that fails prints nothing. -/
def Report.printed (report : Report) : String :=
  match report.result with
  | .ok text => text
  | .error _ => ""

/-- The position of an instruction, aligned to three places, and its text. -/
def numbered (pc : Nat) (instruction : Instruction) : String :=
  String.ofList (Decimal.alignRight 3 (Decimal.digits pc)) ++ ": " ++ instruction.text ++ "\n"

def eventLine (event : Event) : String :=
  "  [depth " ++ Decimal.text event.depth.toNat ++ "] " ++ numbered event.pc event.instruction

def listing (body : FunctionBody) : String :=
  String.join (body.code.zipIdx.map fun (instruction, pc) => numbered pc instruction)

def readBody (directory : Directory) (file : String) : Except Failure FunctionBody :=
  match directory.read? file with
  | none => .error (.unreadable file)
  | some text =>
    match FunctionBody.parse text with
    | .error problem => .error (.notABody file problem)
    | .ok body => .ok body

/-- The outcome as text or as JSON, and the recorded instructions. -/
def runText (report : RunReport) (json : Bool) : String :=
  (if json then report.outcome.toJson.compact else report.outcome.text) ++ "\n"
    ++ String.join (report.trace.map eventLine)

/-- Runs a body and leaves records before and behind the records of the run. -/
def runBody (file : String) (body : FunctionBody) (config : Configuration) (trace json : Bool) :
    Report :=
  let running := LogRecord.running file body.instructionCount config.maxDepth
  match body.run config trace with
  | (.error fault, log) => ⟨.error (.execution file fault), running :: log⟩
  | (.ok report, log) =>
    ⟨.ok (runText report json), running :: log ++ [.finished report.outcome.text]⟩

def loadConfiguration (surroundings : Surroundings) (path : Option String)
    (maxDepth : Option UInt64) : Except Failure Configuration :=
  match Configuration.resolve surroundings ⟨path, maxDepth, none⟩ with
  | .ok config => .ok config
  | .error problem => .error (.configuration problem)

def performRun (surroundings : Surroundings) (path : Option String) (file : String)
    (trace : Bool) (maxDepth : Option UInt64) (json : Bool) : Report :=
  match loadConfiguration surroundings path maxDepth with
  | .error failure => ⟨.error failure, []⟩
  | .ok config =>
    match readBody surroundings.directory file with
    | .error failure => ⟨.error failure, []⟩
    | .ok body => runBody file body config trace json

def performConfig (surroundings : Surroundings) (path : Option String) :
    Except Failure String := do
  let config ← loadConfiguration surroundings path none
  match config.render? with
  | some text => .ok text
  | none => .error .rendering

def perform (surroundings : Surroundings) (invocation : Invocation) : Report :=
  match invocation.command with
  | .run file trace maxDepth json =>
    performRun surroundings invocation.config file trace maxDepth json
  | .list file => ⟨(readBody surroundings.directory file).map listing, []⟩
  | .config => ⟨performConfig surroundings invocation.config, []⟩

end FrameMachine.CommandLine
