import FrameMachine.FunctionBody
import FrameMachine.Instruction.Json
import FrameMachine.Json.Printer
import FrameMachine.Json.Syntax
import FrameMachine.Outcome.Json

/-! Function bodies in JSON, and the texts that values, instructions, outcomes and bodies are read
from. Members that a body, a value or an outcome does not know are skipped; an instruction is read
whole before it is looked at. -/

namespace FrameMachine

open Json.Syntax (Shape)

namespace ValueType

def ofJsonText? (text : String) : Option ValueType := do
  let json ← Json.ofText? .whole text
  ofJson? json

end ValueType

namespace Value

def shape : Shape := .record [("t", .whole), ("v", .whole)]

def ofJsonText? (text : String) : Option Value := do
  let json ← Json.ofText? shape text
  ofJson? json

end Value

namespace Outcome

/-- The first key of a document that is a tag or content. -/
def firstKey? : Json.Syntax → Option String
  | .object members =>
    (members.filterMap fun member => member.1).find? fun key => key = "t" ∨ key = "v"
  | _ => none

/-- Content that stands before its tag is read whole, since it is not yet known to be a value. -/
def shapeOf (tree : Json.Syntax) : Shape :=
  .record [("t", .whole), ("v", if firstKey? tree = some "v" then .whole else Value.shape)]

def ofJsonText? (text : String) : Option Outcome := do
  let tree ← Json.Syntax.ofText? text
  let json ← tree.read? (shapeOf tree) Json.Syntax.maxOpen
  ofJson? json

end Outcome

namespace Instruction

def ofJsonText? (text : String) : Option Instruction := do
  let json ← Json.ofText? .whole text
  ofJson? json

end Instruction

namespace FunctionBody

def shape : Shape := .record [("params", .list Value.shape), ("locals", .whole), ("code", .whole)]

def toJson (body : FunctionBody) : Json :=
  .object [
    ("params", .array (body.params.map Value.toJson)),
    ("locals", .array (body.locals.map ValueType.toJson)),
    ("code", .array (Instruction.listToJson body.code))]

/-- Reads the three parts of a body. Parameters and locals may be missing, code may not. -/
def ofParts? (params locals code : Option Json) : Option FunctionBody := do
  let params ← (params.getD (.array [])).list? Value.ofJson?
  let locals ← (locals.getD (.array [])).list? ValueType.ofJson?
  let code ← code
  let code ← code.list? Instruction.ofJson?
  return ⟨params, locals, code⟩

/-- An array of the three parts means the same as an object that names them. -/
def ofJson? : Json → Option FunctionBody
  | .object members => do
    let params ← Json.field? "params" members
    let locals ← Json.field? "locals" members
    let code ← Json.field? "code" members
    ofParts? params locals code
  | .array [params, locals, code] => ofParts? (some params) (some locals) (some code)
  | _ => none

def ofJsonText? (text : String) : Option FunctionBody := do
  let json ← Json.ofText? shape text
  ofJson? json

/-- The text that a body is stored as. -/
def jsonText (body : FunctionBody) : String := body.toJson.compact

/-- What is said of a text that is no body. -/
def parseMessage : String := "Failed to parse function body"

/-- The body that a text stores. -/
def parse (text : String) : Except String FunctionBody :=
  match ofJsonText? text with
  | some body => .ok body
  | none => .error parseMessage

end FunctionBody

end FrameMachine
