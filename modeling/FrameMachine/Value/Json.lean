import FrameMachine.Value
import FrameMachine.Json.Tagged

/-! Values and value types in JSON. -/

namespace FrameMachine

open Json (Tagged)

namespace ValueType

def toJson (type : ValueType) : Json := .string type.text

/-- The names of all types, in order. -/
def names : List String := [ValueType.i32, ValueType.i64].map text

def ofJson? (json : Json) : Option ValueType := do
  let name ← json.tagName? false
  ofText? name

end ValueType

namespace Value

def toJson (v : Value) : Json := Tagged.toJson v.type.text (some (.ofInt v.toInt))

/-- Reads a value, which may have been set aside until a tag around it was known. -/
def decode (setAside : Bool) (json : Json) : Option Value := do
  let tagged ← Tagged.ofJson? json
  let name ← tagged.name? setAside ValueType.names
  let type ← ValueType.ofText? name
  match tagged.content with
  | some (.number (.integer n)) => ofInt? type n
  | _ => none

def ofJson? (json : Json) : Option Value := decode false json

end Value

end FrameMachine
