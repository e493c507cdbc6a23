import FrameMachine.Instruction

/-! The text form of instructions: a line of names and numbers, in which nested sequences stand in
parentheses. Text is built in front of what follows it, so that deep trees are written in one
pass. -/

namespace FrameMachine.Instruction

/-- An index, if there is one, behind a blank. -/
def indexText (index : Option UInt64) (rest : List Char) : List Char :=
  match index with
  | some i => ' ' :: (Decimal.chars i.toNat ++ rest)
  | none => rest

mutual

/-- The text of an instruction in front of `rest`. -/
def render : Instruction → List Char → List Char
  | .const (some n), rest => "i32.const ".toList ++ (Decimal.chars n.toInt ++ rest)
  | .getLocal (some i), rest => "get_local ".toList ++ (Decimal.chars i.toNat ++ rest)
  | .loop body, rest => "(loop".toList ++ renderBody body (')' :: rest)
  | .setLocal index init, rest =>
    "(set_local".toList ++ indexText index (renderInit init (')' :: rest))
  | instruction, rest => instruction.name.toList ++ rest

/-- Each instruction stands behind a blank. -/
def renderBody : List Instruction → List Char → List Char
  | [], rest => rest
  | first :: others, rest => ' ' :: render first (renderBody others rest)

/-- An initializer gets parentheses unless it has its own. -/
def renderInit : Option Instruction → List Char → List Char
  | none, rest => rest
  | some init, rest =>
    if init.isBlock then ' ' :: render init rest else ' ' :: '(' :: render init (')' :: rest)

end

def text (instruction : Instruction) : String := String.ofList (instruction.render [])

end FrameMachine.Instruction
