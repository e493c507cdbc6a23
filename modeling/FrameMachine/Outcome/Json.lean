import FrameMachine.Outcome
import FrameMachine.Value.Json

/-! Outcomes in JSON. -/

namespace FrameMachine.Outcome

open Json (Tagged)

def toJson : Outcome → Json
  | .value v => Tagged.toJson "Value" (some v.toJson)
  | .empty => Tagged.toJson "Empty" none
  | .trapped => Tagged.toJson "Trapped" none

/-- The names of all outcomes, in order. -/
def names : List String := ["Value", "Empty", "Trapped"]

/-- Only a value has content; null is as good as none. Content that stands before the tag is set
aside until the tag is known. -/
def ofJson? (json : Json) : Option Outcome := do
  let tagged ← Tagged.ofJson? json
  let name ← tagged.name? false names
  match name, tagged.content with
  | "Value", some content => (Value.decode (tagged.layout = .contentFirst) content).map .value
  | "Empty", none => some .empty
  | "Empty", some .null => some .empty
  | "Trapped", none => some .trapped
  | "Trapped", some .null => some .trapped
  | _, _ => none

end FrameMachine.Outcome
