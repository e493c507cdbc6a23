import FrameMachine.Instruction

/-! A dump of instructions for diagnosis. It names every operand, also those that are absent. -/

namespace FrameMachine.Instruction

/-- An optional number as it stands in a dump. -/
def dumpNumber (n : Option Int) (rest : List Char) : List Char :=
  match n with
  | some n => "Some(".toList ++ (Decimal.chars n ++ ')' :: rest)
  | none => "None".toList ++ rest

def dumpOperator : Operator → String
  | .add => "Add"
  | .sub => "Sub"
  | .mul => "Mul"

mutual

/-- The dump of an instruction in front of `rest`. -/
def dumpTo : Instruction → List Char → List Char
  | .const n, rest =>
    "Const \x7b value: ".toList ++ dumpNumber (n.map Int64.toInt) (" \x7d".toList ++ rest)
  | .nop, rest => "Nop".toList ++ rest
  | .loop body, rest => "Loop \x7b body: [".toList ++ dumpBody body ("] \x7d".toList ++ rest)
  | .trap, rest => "Trap".toList ++ rest
  | .getLocal i, rest =>
    "GetLocal \x7b index: ".toList
      ++ dumpNumber (i.map fun i => (i.toNat : Int)) (" \x7d".toList ++ rest)
  | .setLocal i init, rest =>
    "SetLocal \x7b index: ".toList
      ++ dumpNumber (i.map fun i => (i.toNat : Int))
        (", init: ".toList ++ dumpInit init (" \x7d".toList ++ rest))
  | .binary operator, rest => (dumpOperator operator).toList ++ rest
  | .unknown, rest => "Unknown".toList ++ rest

/-- The first instruction of a list. -/
def dumpBody : List Instruction → List Char → List Char
  | [], rest => rest
  | first :: others, rest => dumpTo first (dumpOthers others rest)

/-- The other instructions of a list, each behind a comma. -/
def dumpOthers : List Instruction → List Char → List Char
  | [], rest => rest
  | first :: others, rest => ',' :: ' ' :: dumpTo first (dumpOthers others rest)

def dumpInit : Option Instruction → List Char → List Char
  | none, rest => "None".toList ++ rest
  | some init, rest => "Some(".toList ++ dumpTo init (')' :: rest)

end

def dump (instruction : Instruction) : String := String.ofList (instruction.dumpTo [])

/-- The dump of a sequence. -/
def dumpAll (code : List Instruction) : String := String.ofList ('[' :: dumpBody code [']'])

end FrameMachine.Instruction
