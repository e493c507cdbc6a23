import FrameMachine.Decimal

/-! Runtime values: integers of two widths, tagged by their type. Arithmetic wraps at the width of
its operands and never mixes the two types. -/

namespace FrameMachine

/-- The numeric types. -/
inductive ValueType where
  | i32
  | i64
deriving DecidableEq, Inhabited

/-- A tagged integer on a value stack or in a local slot. -/
inductive Value where
  | i32 (payload : Int32)
  | i64 (payload : Int64)
deriving DecidableEq, Inhabited

/-- The binary operators. -/
inductive Operator where
  | add
  | sub
  | mul
deriving DecidableEq, Inhabited

namespace ValueType

def text : ValueType → String
  | .i32 => "i32"
  | .i64 => "i64"

def ofText? : String → Option ValueType
  | "i32" => some .i32
  | "i64" => some .i64
  | _ => none

/-- What a declared local starts with. -/
def zero : ValueType → Value
  | .i32 => .i32 0
  | .i64 => .i64 0

end ValueType

namespace Value

def type : Value → ValueType
  | .i32 _ => .i32
  | .i64 _ => .i64

/-- The payload as an unbounded integer. -/
def toInt : Value → Int
  | .i32 n => n.toInt
  | .i64 n => n.toInt

/-- The value of a type with the given payload, if the type has one. -/
def ofInt? : ValueType → Int → Option Value
  | .i32, n =>
    if Int32.minValue.toInt ≤ n ∧ n ≤ Int32.maxValue.toInt then some (.i32 (Int32.ofInt n)) else none
  | .i64, n =>
    if Int64.minValue.toInt ≤ n ∧ n ≤ Int64.maxValue.toInt then some (.i64 (Int64.ofInt n)) else none

def text (v : Value) : String := v.type.text ++ " " ++ Decimal.text v.toInt

end Value

namespace Operator

def symbol : Operator → String
  | .add => "+"
  | .sub => "-"
  | .mul => "*"

def ofSymbol? : String → Option Operator
  | "+" => some .add
  | "-" => some .sub
  | "*" => some .mul
  | _ => none

def onInt32 : Operator → Int32 → Int32 → Int32
  | .add, x, y => x + y
  | .sub, x, y => x - y
  | .mul, x, y => x * y

def onInt64 : Operator → Int64 → Int64 → Int64
  | .add, x, y => x + y
  | .sub, x, y => x - y
  | .mul, x, y => x * y

end Operator

end FrameMachine
