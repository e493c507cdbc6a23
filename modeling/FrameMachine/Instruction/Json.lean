import FrameMachine.Instruction
import FrameMachine.Json.Basic

/-! Instructions in JSON. An instruction is an object whose member `id` names the operation; the
other members are the operation's fields, and members that are not among them mean nothing. An
array of the name and the fields, in order, means the same. -/

namespace FrameMachine

/-- The operations, as JSON names them. -/
inductive Operation where
  | const
  | nop
  | loop
  | trap
  | getLocal
  | setLocal
  | binary (operator : Operator)
  | unknown
deriving DecidableEq, Inhabited

namespace Operation

def ofName : String → Operation
  | "i32.const" => .const
  | "nop" => .nop
  | "loop" => .loop
  | "trap" => .trap
  | "get_local" => .getLocal
  | "set_local" => .setLocal
  | "i32.add" => .binary .add
  | "i32.sub" => .binary .sub
  | "i32.mul" => .binary .mul
  | _ => .unknown

/-- The operations in their fixed order. -/
def ofPosition : Nat → Operation
  | 0 => .const
  | 1 => .nop
  | 2 => .loop
  | 3 => .trap
  | 4 => .getLocal
  | 5 => .setLocal
  | 6 => .binary .add
  | 7 => .binary .sub
  | 8 => .binary .mul
  | _ => .unknown

/-- The fields of an operation, in order. -/
def fields : Operation → List String
  | .const => ["value"]
  | .loop => ["body"]
  | .getLocal => ["index"]
  | .setLocal => ["index", "init"]
  | _ => []

/-- Reads an operation off its name. Inside another instruction its position among the operations
does as well. -/
def ofJson? (inside : Bool) : Json → Option Operation
  | .string name => some (ofName name)
  | .number (.integer n) => if inside ∧ 0 ≤ n then some (ofPosition n.toNat) else none
  | _ => none

end Operation

/-- The fields of an instruction that have been read so far. -/
structure Operands where
  value : Option (Option Int64)
  body : Option (List Instruction)
  index : Option (Option UInt64)
  init : Option (Option Instruction)

namespace Operands

def none : Operands := ⟨.none, .none, .none, .none⟩

/-- Takes one more field from JSON, which `body` reads as a sequence and `init` as an instruction. A
field that was given before is an error. -/
def give? (operands : Operands) (key : String) (json : Json)
    (body : Unit → Option (List Instruction)) (init : Unit → Option Instruction) :
    Option Operands :=
  match key with
  | "value" =>
    if operands.value.isSome then .none
    else (json.optional? Json.int64?).map fun value => { operands with value := some value }
  | "body" =>
    if operands.body.isSome then .none
    else (body ()).map fun body => { operands with body := some body }
  | "index" =>
    if operands.index.isSome then .none
    else (json.optional? Json.uint64?).map fun index => { operands with index := some index }
  | "init" =>
    if operands.init.isSome then .none
    else (json.optional? fun _ => init ()).map fun init => { operands with init := some init }
  | _ => .none

/-- The instruction with these operands. A field that was not given is absent, a body empty. -/
def instruction (operands : Operands) : Operation → Instruction
  | .const => .const operands.value.join
  | .nop => .nop
  | .loop => .loop (operands.body.getD [])
  | .trap => .trap
  | .getLocal => .getLocal operands.index.join
  | .setLocal => .setLocal operands.index.join operands.init.join
  | .binary operator => .binary operator
  | .unknown => .unknown

end Operands

namespace Instruction

mutual

def toJson : Instruction → Json
  | .const none => .object [("id", .string "i32.const")]
  | .const (some n) => .object [("id", .string "i32.const"), ("value", .ofInt n.toInt)]
  | .nop => .object [("id", .string "nop")]
  | .loop body => .object [("id", .string "loop"), ("body", .array (listToJson body))]
  | .trap => .object [("id", .string "trap")]
  | .getLocal none => .object [("id", .string "get_local")]
  | .getLocal (some i) => .object [("id", .string "get_local"), ("index", .ofNat i.toNat)]
  | .setLocal index init =>
    .object (("id", .string "set_local") :: (indexMember index ++ initMember init))
  | .binary operator => .object [("id", .string operator.instructionName)]
  | .unknown => .object [("id", .string "Unknown")]

def listToJson : List Instruction → List Json
  | [] => []
  | first :: rest => toJson first :: listToJson rest

def initMember : Option Instruction → List (String × Json)
  | none => []
  | some init => [("init", toJson init)]

def indexMember : Option UInt64 → List (String × Json)
  | none => []
  | some i => [("index", .ofNat i.toNat)]

end

mutual

/-- Reads an instruction, which may stand inside another one. -/
def decode (inside : Bool) : Json → Option Instruction
  | .object members => do
    let id ← Json.field? "id" members
    let operation ← id.bind (Operation.ofJson? inside)
    let operands ← decodeMembers operation .none members
    return operands.instruction operation
  | .array (id :: items) => do
    let operation ← Operation.ofJson? inside id
    let operands ← decodeItems operation.fields .none items
    return operands.instruction operation
  | _ => none

/-- Reads the fields of an operation among all members. -/
def decodeMembers (operation : Operation) (operands : Operands) :
    List (String × Json) → Option Operands
  | [] => some operands
  | (key, json) :: rest =>
    if key ∈ operation.fields then do
      let operands ← operands.give? key json (fun _ => decodeBody json) (fun _ => decode true json)
      decodeMembers operation operands rest
    else decodeMembers operation operands rest

/-- Reads fields by position. -/
def decodeItems (keys : List String) (operands : Operands) : List Json → Option Operands
  | [] => some operands
  | json :: rest =>
    match keys with
    | [] => none
    | key :: keys => do
      let operands ← operands.give? key json (fun _ => decodeBody json) (fun _ => decode true json)
      decodeItems keys operands rest

/-- Only an array is a sequence. -/
def decodeBody : Json → Option (List Instruction)
  | .array items => decodeList items
  | _ => none

def decodeList : List Json → Option (List Instruction)
  | [] => some []
  | first :: rest => do
    let instruction ← decode true first
    let others ← decodeList rest
    return instruction :: others

end

def ofJson? (json : Json) : Option Instruction := decode false json

end Instruction

end FrameMachine
