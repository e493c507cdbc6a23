import FrameMachine.Fault

/-! The local slots of one activation. A slot may be unpopulated, and reading such a slot is a
fault; the number of slots never changes. -/

namespace FrameMachine

structure Locals where
  slots : List (Option Value)
deriving DecidableEq, Inhabited

namespace Locals

/-- That many unpopulated slots. -/
def unpopulated (size : Nat) : Locals := ⟨List.replicate size none⟩

/-- One populated slot per value, in order. -/
def ofValues (values : List Value) : Locals := ⟨values.map some⟩

def size (locals : Locals) : Nat := locals.slots.length

def get (locals : Locals) (index : UInt64) : Except Fault Value :=
  match locals.slots[index.toNat]? with
  | some (some v) => .ok v
  | some none => .error (.unpopulatedLocal index)
  | none => .error (.localOutOfRange index locals.size)

def set (locals : Locals) (index : UInt64) (v : Value) : Except Fault Locals :=
  if index.toNat < locals.size then .ok ⟨locals.slots.set index.toNat (some v)⟩
  else .error (.localOutOfRange index locals.size)

end Locals

end FrameMachine
