import FrameMachine.Binary64.Text
import FrameMachine.Configuration.Setting
import FrameMachine.Environment

/-! Settings from environment variables. The name of a variable says the path of the setting, and
its text says what kind of value it is. -/

namespace FrameMachine.Variables

/-- Two underscores divide the names of a path. -/
def divide : List Char → List Char
  | '_' :: '_' :: rest => '.' :: divide rest
  | c :: rest => c :: divide rest
  | [] => []

/-- What names of variables for settings start with, in any case. -/
def mark : List Char := "kernel_".toList

/-- The key of the setting that a variable is for. -/
def key? (name : String) : Option String :=
  let name := name.toList.map lowerChar
  if mark.isPrefixOf name then some (String.ofList (divide (name.drop mark.length))) else none

/-- A text that says a truth value, an integer of 64 bits or a floating-point number is one. -/
def setting (text : String) : Setting :=
  if lowerText text = "true" then .boolean true
  else if lowerText text = "false" then .boolean false
  else
    let fits (n : Int) : Bool := Int64.minValue.toInt ≤ n && n ≤ Int64.maxValue.toInt
    match (Decimal.signed? text.toList).filter fits with
    | some n => .integer (Int64.ofInt n)
    | none =>
      match Binary64.ofText? text.toList with
      | some x => .real x
      | none => .text text

/-- The settings of an environment by their keys. Later ones win. -/
def settings (environment : Environment) : List (String × Setting) :=
  environment.filterMap fun (name, text) => (key? name).map fun key => (key, setting text)

end FrameMachine.Variables
