import FrameMachine.Configuration.Basic
import FrameMachine.Log

/-! Function bodies: code together with what its locals start with. The parameters fill the first
slots, and each declared local follows with the zero of its type. -/

namespace FrameMachine

structure FunctionBody where
  params : List Value
  locals : List ValueType
  code : List Instruction
deriving Inhabited

/-- The outcome of a run and, if it was recorded, every instruction that completed. -/
structure RunReport where
  outcome : Outcome
  trace : List Event
deriving Inhabited

namespace FunctionBody

/-- The locals store of one activation. -/
def store (body : FunctionBody) : Locals :=
  .ofValues (body.params ++ body.locals.map ValueType.zero)

def instructionCount (body : FunctionBody) : Nat := Instruction.sizeAll body.code

/-- Runs a body in a fresh activation. Recording takes the place of the log: events go to the log
only if the configuration says so and nothing is recorded. -/
def run (body : FunctionBody) (config : Configuration) (record : Bool) :
    Except Fault RunReport × List LogRecord :=
  if record then
    let machine : Machine (Array Event) := ⟨config.maxDepth, .recorder⟩
    let (result, state) := machine.run body.code body.store #[]
    (result.map fun outcome => ⟨outcome, state.seen.toList⟩, [])
  else if config.traceEnabled then
    let machine : Machine (Array LogRecord) := ⟨config.maxDepth, .logger⟩
    let (result, state) := machine.run body.code body.store #[]
    (result.map fun outcome => ⟨outcome, []⟩, state.seen.toList)
  else
    let machine : Machine Unit := ⟨config.maxDepth, .silent⟩
    let (result, _) := machine.run body.code body.store ()
    (result.map fun outcome => ⟨outcome, []⟩, [])

end FunctionBody

end FrameMachine
