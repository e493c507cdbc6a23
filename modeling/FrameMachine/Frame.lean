import FrameMachine.Machine
import FrameMachine.Instruction.Dump

/-! A frame as a thing that can be executed again and again. It keeps its code and its value stack:
what an execution left below its result, or left behind when it stopped, is still there for the
next one. -/

namespace FrameMachine

structure Frame where
  code : List Instruction
  /-- The value stack, top first. -/
  values : List Value
deriving Inhabited

namespace Frame

def ofCode (code : List Instruction) : Frame := ⟨code, []⟩

/-- Executes a frame over a locals store, both of which come back as they were left. -/
def execute {σ : Type} (machine : Machine σ) (depth : UInt64) (frame : Frame) (locals : Locals)
    (seen : σ) : Except Fault Outcome × Frame × Locals × σ :=
  let (result, state) := machine.execute depth frame.code ⟨frame.values, locals, seen⟩
  (result, { frame with values := state.values }, state.locals, state.seen)

def dumpValue (v : Value) : String :=
  match v with
  | .i32 n => "I32(" ++ Decimal.text n.toInt ++ ")"
  | .i64 n => "I64(" ++ Decimal.text n.toInt ++ ")"

def dumpSlot : Option Value → String
  | some v => "Some(" ++ dumpValue v ++ ")"
  | none => "None"

/-- A dump of everything that a frame can reach, the value stack bottom first. -/
def dump (frame : Frame) (locals : Locals) (observed : Bool) : String :=
  "StackFrame \x7b code: " ++ Instruction.dumpAll frame.code
    ++ ", locals: Locals \x7b slots: [" ++ ", ".intercalate (locals.slots.map dumpSlot)
    ++ "] \x7d, values: [" ++ ", ".intercalate (frame.values.reverse.map dumpValue)
    ++ "], traced: " ++ (if observed then "true" else "false") ++ " \x7d"

end Frame

end FrameMachine
