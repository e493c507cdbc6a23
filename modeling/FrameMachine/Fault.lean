import FrameMachine.Value

/-! Fatal faults. A fault ends the whole run. One kind says that the depth limit was hit, which valid code
may do as well; every other says that the code, or the frame it was given, was never valid. A trap is
not a fault: it is an outcome. -/

namespace FrameMachine

/-- An operand that an instruction may lack. -/
inductive Operand where
  | constValue
  | getIndex
  | setIndex
  | setInitializer
deriving DecidableEq, Inhabited

inductive Fault where
  | missingOperand (operand : Operand)
  | stackUnderflow (operator : Operator) (expected found : Nat)
  | unpopulatedLocal (index : UInt64)
  | localOutOfRange (index : UInt64) (size : Nat)
  | unknownInstruction
  | emptyInitializer (index : UInt64)
  | depthExceeded (limit : UInt64)
  | valueOutOfRange (value : Int64) (type : ValueType)
  | typeMismatch (operator : Operator) (lhs rhs : ValueType)
  | unsupportedOperator (symbol : String)
deriving DecidableEq, Inhabited

/-- The name that an operator has as an instruction. -/
def Operator.instructionName : Operator → String
  | .add => "i32.add"
  | .sub => "i32.sub"
  | .mul => "i32.mul"

/-- The instruction that lacks the operand. -/
def Operand.instructionName : Operand → String
  | .constValue => "i32.const"
  | .getIndex => "get_local"
  | .setIndex => "set_local"
  | .setInitializer => "set_local"

def Operand.text : Operand → String
  | .constValue => "value"
  | .getIndex => "index"
  | .setIndex => "index"
  | .setInitializer => "initializer"

namespace Fault

/-- A stable name for the kind of fault. -/
def code : Fault → String
  | .missingOperand .. => "MISSING_OPERAND"
  | .stackUnderflow .. => "STACK_UNDERFLOW"
  | .unpopulatedLocal .. => "UNPOPULATED_LOCAL"
  | .localOutOfRange .. => "LOCAL_OUT_OF_RANGE"
  | .unknownInstruction => "UNKNOWN_INSTRUCTION"
  | .emptyInitializer .. => "EMPTY_INITIALIZER"
  | .depthExceeded .. => "DEPTH_EXCEEDED"
  | .valueOutOfRange .. => "VALUE_OUT_OF_RANGE"
  | .typeMismatch .. => "TYPE_MISMATCH"
  | .unsupportedOperator .. => "UNSUPPORTED_OPERATOR"

def message : Fault → String
  | .missingOperand operand =>
    operand.instructionName ++ " requires " ++ operand.text ++ ", none given"
  | .stackUnderflow operator expected found =>
    operator.instructionName ++ " expected " ++ Decimal.text expected
      ++ " value(s) on the stack, found " ++ Decimal.text found
  | .unpopulatedLocal index => "no local value at index " ++ Decimal.text index.toNat
  | .localOutOfRange index size =>
    "local index " ++ Decimal.text index.toNat ++ " is out of range for "
      ++ Decimal.text size ++ " slot(s)"
  | .unknownInstruction => "unknown operation"
  | .emptyInitializer index =>
    "set_local " ++ Decimal.text index.toNat ++ ": initializer produced no value"
  | .depthExceeded limit => "maximum nesting depth of " ++ Decimal.text limit.toNat ++ " exceeded"
  | .valueOutOfRange value type =>
    Decimal.text value.toInt ++ " is not representable as " ++ type.text
  | .typeMismatch operator lhs rhs =>
    "operand types do not match: " ++ lhs.text ++ " " ++ operator.symbol ++ " " ++ rhs.text
  | .unsupportedOperator symbol => "unsupported operator '" ++ symbol ++ "'"

/-- Whether a limit was hit, rather than bad code. -/
def isResourceLimit : Fault → Bool
  | .depthExceeded .. => true
  | _ => false

end Fault

namespace Value

/-- Makes a value of a type, if the number fits it. -/
def create (type : ValueType) (n : Int64) : Except Fault Value :=
  match ofInt? type n.toInt with
  | some v => .ok v
  | none => .error (.valueOutOfRange n type)

end Value

namespace Operator

/-- Reads an operator off its symbol. -/
def parse (symbol : String) : Except Fault Operator :=
  match ofSymbol? symbol with
  | some operator => .ok operator
  | none => .error (.unsupportedOperator symbol)

/-- Applies an operator to two values of one type. -/
def apply (operator : Operator) : Value → Value → Except Fault Value
  | .i32 lhs, .i32 rhs => .ok (.i32 (operator.onInt32 lhs rhs))
  | .i64 lhs, .i64 rhs => .ok (.i64 (operator.onInt64 lhs rhs))
  | lhs, rhs => .error (.typeMismatch operator lhs.type rhs.type)

end Operator

end FrameMachine
