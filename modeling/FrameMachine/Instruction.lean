import FrameMachine.Fault

/-! The instruction set. Code is a tree: a loop holds a body, and a local assignment holds the
instruction that initializes it. Operands may be absent; running such an instruction is a fault. -/

namespace FrameMachine

inductive Instruction where
  /-- Pushes a constant. -/
  | const (value : Option Int64)
  | nop
  /-- Runs its body once, in a frame of its own. There is nothing to branch to. -/
  | loop (body : List Instruction)
  | trap
  | getLocal (index : Option UInt64)
  /-- Runs the initializer in a frame of its own and stores its value. -/
  | setLocal (index : Option UInt64) (init : Option Instruction)
  /-- Replaces the two topmost values by the result of the operator. -/
  | binary (operator : Operator)
  /-- Stands for every operation outside this instruction set. -/
  | unknown
deriving Inhabited

namespace Instruction

def name : Instruction → String
  | .const _ => "i32.const"
  | .nop => "nop"
  | .loop _ => "loop"
  | .trap => "trap"
  | .getLocal _ => "get_local"
  | .setLocal .. => "set_local"
  | .binary operator => operator.instructionName
  | .unknown => "unknown"

/-- Whether the text form brings its own parentheses. -/
def isBlock : Instruction → Bool
  | .loop _ => true
  | .setLocal .. => true
  | _ => false

mutual

/-- The number of instructions in the tree. -/
def size : Instruction → Nat
  | .loop body => 1 + sizeAll body
  | .setLocal _ (some init) => 1 + size init
  | _ => 1

/-- The number of instructions in a sequence, nested ones included. -/
def sizeAll : List Instruction → Nat
  | [] => 0
  | first :: rest => size first + sizeAll rest

end

end Instruction

end FrameMachine
