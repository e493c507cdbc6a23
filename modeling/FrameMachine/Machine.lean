import FrameMachine.Locals
import FrameMachine.Outcome
import FrameMachine.Trace

/-! Execution. A frame is one activation of a sequence: it has a value stack of its own and shares
the locals store with every frame nested in it. A loop body and an initializer each run in a nested
frame, one level deeper. Nothing repeats, so execution follows the instruction tree.

Two things stop a frame before the end of its code: a trap and a fault. Both stop every enclosing
frame too. What was written to the locals before that stays written. -/

namespace FrameMachine

/-- Why execution stopped before the end of the code. -/
inductive Stop where
  | trap
  | fault (fault : Fault)
deriving DecidableEq, Inhabited

/-- What a running frame can reach: its value stack, top first, the locals store, and what the
observer has kept so far. -/
structure State (σ : Type) where
  values : List Value
  locals : Locals
  seen : σ

/-- How far execution came, and the state it left. -/
inductive Progress (σ : Type) where
  | ran (state : State σ)
  | stopped (stop : Stop) (state : State σ)

/-- The limits of a machine and its observer. The limit is the depth of the deepest frame allowed;
the outermost frame normally runs at depth 0. -/
structure Machine (σ : Type) where
  limit : UInt64
  observer : Observer σ

/-- The limit of a machine that was given none. -/
def defaultLimit : UInt64 := 512

namespace Progress

variable {σ : Type}

/-- Goes on from where execution came to, unless it stopped. -/
@[inline] def andThen (progress : Progress σ) (next : State σ → Progress σ) : Progress σ :=
  match progress with
  | .ran state => next state
  | .stopped stop state => .stopped stop state

end Progress

namespace State

variable {σ : Type}

def fail (state : State σ) (fault : Fault) : Progress σ := .stopped (.fault fault) state

def push (state : State σ) (v : Value) : State σ := { state with values := v :: state.values }

/-- Pushes a value, or stops with the fault met in making it. -/
def pushOrFail (state : State σ) : Except Fault Value → Progress σ
  | .ok v => .ran (state.push v)
  | .error fault => state.fail fault

/-- Writes to a local slot. -/
def assign (state : State σ) (index : UInt64) (v : Value) : Progress σ :=
  match state.locals.set index v with
  | .ok locals => .ran { state with locals }
  | .error fault => state.fail fault

/-- Replaces the two topmost values by the result of the operator. The operands are gone even if
their types turn out to differ; with fewer than two values nothing is popped. -/
def operate (state : State σ) (operator : Operator) : Progress σ :=
  match state.values with
  | rhs :: lhs :: rest => { state with values := rest }.pushOrFail (operator.apply lhs rhs)
  | short => state.fail (.stackUnderflow operator 2 short.length)

end State

namespace Machine

variable {σ : Type}

/-- Tells the observer that an instruction completed. -/
def report (machine : Machine σ) (depth : UInt64) (pc : Nat) (instruction : Instruction)
    (state : State σ) : State σ :=
  { state with seen := machine.observer.notice ⟨depth, pc, instruction⟩ state.seen }

/-- Runs `body` in a frame nested at `depth`, with an empty value stack. Once it ran, `resume` gets
the values it left, and the value stack of the enclosing frame is back in place. -/
@[inline] def nested (machine : Machine σ) (depth : UInt64) (state : State σ)
    (body : State σ → Progress σ) (resume : List Value → State σ → Progress σ) : Progress σ :=
  if machine.limit < depth then state.fail (.depthExceeded machine.limit)
  else
    match body { state with values := [] } with
    | .ran inner => resume inner.values { inner with values := state.values }
    | .stopped stop inner => .stopped stop { inner with values := state.values }

mutual

/-- Executes one instruction in a frame at `depth`. The depth of a nested frame is counted in 64
bits. -/
def step (machine : Machine σ) (depth : UInt64) : Instruction → State σ → Progress σ
  | .const none, state => state.fail (.missingOperand .constValue)
  | .const (some n), state => state.pushOrFail (Value.create .i32 n)
  | .nop, state => .ran state
  | .loop body, state =>
    if body.isEmpty then .ran state
    else
      machine.nested (depth + 1) state (fun inner => machine.sequence (depth + 1) 0 body inner)
        (fun _ outer => .ran outer)
  | .trap, state => .stopped .trap state
  | .getLocal none, state => state.fail (.missingOperand .getIndex)
  | .getLocal (some index), state => state.pushOrFail (state.locals.get index)
  | .setLocal none _, state => state.fail (.missingOperand .setIndex)
  | .setLocal (some _) none, state => state.fail (.missingOperand .setInitializer)
  | .setLocal (some index) (some init), state =>
    machine.nested (depth + 1) state
      (fun inner =>
        (machine.step (depth + 1) init inner).andThen fun after =>
          .ran (machine.report (depth + 1) 0 init after))
      (fun values outer =>
        match values with
        | v :: _ => outer.assign index v
        | [] => outer.fail (.emptyInitializer index))
  | .binary operator, state => state.operate operator
  | .unknown, state => state.fail .unknownInstruction

/-- Executes a sequence in a frame at `depth`, of which `pc` instructions lie behind. -/
def sequence (machine : Machine σ) (depth : UInt64) (pc : Nat) :
    List Instruction → State σ → Progress σ
  | [], state => .ran state
  | first :: rest, state =>
    (machine.step depth first state).andThen fun after =>
      machine.sequence depth (pc + 1) rest (machine.report depth pc first after)

end

/-- Executes the code of a frame at `depth`. The outcome is the value on top of the stack, which is
popped. -/
def execute (machine : Machine σ) (depth : UInt64) (code : List Instruction) (state : State σ) :
    Except Fault Outcome × State σ :=
  if machine.limit < depth then (.error (.depthExceeded machine.limit), state)
  else
    match machine.sequence depth 0 code state with
    | .stopped .trap state => (.ok .trapped, state)
    | .stopped (.fault fault) state => (.error fault, state)
    | .ran state =>
      match state.values with
      | v :: rest => (.ok (.value v), { state with values := rest })
      | [] => (.ok .empty, state)

/-- Runs code in a fresh outermost frame. -/
def run (machine : Machine σ) (code : List Instruction) (locals : Locals) (seen : σ) :
    Except Fault Outcome × State σ :=
  machine.execute 0 code ⟨[], locals, seen⟩

end Machine

end FrameMachine
