import FrameMachine.Trace

/-! The records that a run leaves in the log. -/

namespace FrameMachine

inductive LogRecord where
  /-- An instruction completed. -/
  | executed (depth : UInt64) (pc : Nat) (instruction : String)
  /-- A function body is about to run. -/
  | running (file : String) (instructions : Nat) (maxDepth : UInt64)
  /-- A function body ran to its end. -/
  | finished (outcome : String)
deriving DecidableEq, Inhabited

namespace LogRecord

def level : LogRecord → String
  | .executed .. => "TRACE"
  | .running .. => "INFO"
  | .finished .. => "DEBUG"

def message : LogRecord → String
  | .executed .. => "executed"
  | .running .. => "running function body"
  | .finished .. => "run finished"

def ofEvent (event : Event) : LogRecord :=
  .executed event.depth event.pc event.instruction.text

end LogRecord

/-- Writes every event to the log. -/
def Observer.logger : Observer (Array LogRecord) :=
  ⟨fun event log => log.push (.ofEvent event)⟩

end FrameMachine
