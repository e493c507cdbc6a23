import FrameMachine.Value

/-! What a frame produced once its code stopped. A trap is a kind of its own, so no value can be
taken for it. -/

namespace FrameMachine

inductive Outcome where
  /-- The code ran out and this was on top of the value stack. -/
  | value (v : Value)
  /-- The code ran out with nothing on the value stack. -/
  | empty
  /-- A trap was reached, here or in a nested sequence. -/
  | trapped
deriving DecidableEq, Inhabited

namespace Outcome

def isTrapped : Outcome → Bool
  | .trapped => true
  | _ => false

def value? : Outcome → Option Value
  | .value v => some v
  | _ => none

def text : Outcome → String
  | .value v => "value: " ++ v.text
  | .empty => "empty"
  | .trapped => "trapped"

end Outcome

end FrameMachine
