import FrameMachine.Instruction.Text

/-! Observation of a run. An observer is told of every instruction that completed and keeps what it
likes of it; it sees the place and the instruction, never the state of the machine. -/

namespace FrameMachine

/-- One completed instruction: the nesting depth of its frame, its position in that frame's code,
and the instruction itself. -/
structure Event where
  depth : UInt64
  pc : Nat
  instruction : Instruction
deriving Inhabited

/-- What is kept of each event, folded into what was kept before. -/
structure Observer (σ : Type) where
  notice : Event → σ → σ

namespace Observer

/-- Keeps nothing. -/
def silent : Observer Unit := ⟨fun _ _ => ()⟩

/-- Keeps every event, in order. -/
def recorder : Observer (Array Event) := ⟨fun event seen => seen.push event⟩

end Observer

end FrameMachine
