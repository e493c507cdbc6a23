import FrameMachine.Proofs.Nesting
import FrameMachine.Proofs.StoreInvariant

/-! What a fault says. Each fault that ends a run names something that is really there: an instruction
of the code, wherever it is nested, and where a slot is named, the state of that slot. A fault comes
from the last instruction that was begun, so it speaks of the locals that the run left; that it is as
true of the locals the run was given takes what no execution changes. -/

namespace FrameMachine

namespace Value

theorem create_i32_eq_error {n : Int64} {fault : Fault} (refused : create .i32 n = .error fault) :
    fault = .valueOutOfRange n .i32 ∧
      ¬ (Int32.minValue.toInt ≤ n.toInt ∧ n.toInt ≤ Int32.maxValue.toInt) := by
  simp only [create, ofInt?] at refused
  split at refused
  next => cases refused
  next missing =>
    split at missing
    next => cases missing
    next large => exact ⟨(Except.error.inj refused).symm, large⟩

end Value

namespace Locals

variable {locals : Locals} {index : UInt64} {fault : Fault}

theorem get_eq_error (refused : locals.get index = .error fault) :
    fault = .unpopulatedLocal index ∧ locals.slots[index.toNat]? = some none ∨
      fault = .localOutOfRange index locals.size ∧ locals.size ≤ index.toNat := by
  unfold get at refused
  split at refused
  next => cases refused
  next empty => exact .inl ⟨(Except.error.inj refused).symm, empty⟩
  next outside =>
    exact .inr ⟨(Except.error.inj refused).symm, List.getElem?_eq_none_iff.mp outside⟩

theorem set_eq_error {v : Value} (refused : locals.set index v = .error fault) :
    fault = .localOutOfRange index locals.size ∧ locals.size ≤ index.toNat := by
  unfold set at refused
  split at refused
  next => cases refused
  next outside => exact ⟨(Except.error.inj refused).symm, Nat.not_lt.mp outside⟩

end Locals

theorem Operator.apply_eq_error {operator : Operator} {lhs rhs : Value} {fault : Fault}
    (refused : operator.apply lhs rhs = .error fault) :
    fault = .typeMismatch operator lhs.type rhs.type ∧ lhs.type ≠ rhs.type := by
  cases lhs <;> cases rhs <;> cases refused <;> exact ⟨rfl, nofun⟩

namespace Instruction

/-- Only an assignment refuses what its child left: there is no value, or no slot for it. -/
theorem finish_eq_error {instruction : Instruction} {child : Memory} {fault : Fault}
    (refused : instruction.finish child = .error fault) :
    ∃ index init, instruction = .setLocal (some index) init ∧
      (child.values = [] ∧ fault = .emptyInitializer index ∨
        fault = .localOutOfRange index child.locals.size ∧ child.locals.size ≤ index.toNat) := by
  unfold finish at refused
  split at refused
  next index init =>
    refine ⟨index, init, rfl, ?_⟩
    split at refused
    next => exact .inr (Locals.set_eq_error refused)
    next left => exact .inl ⟨left, (Except.error.inj refused).symm⟩
  next => cases refused

/-- The instruction is of the kind that needs the operand, and has none. -/
inductive Lacks : Instruction → Operand → Prop where
  | constValue : Lacks (.const none) .constValue
  | getIndex : Lacks (.getLocal none) .getIndex
  | setIndex {init} : Lacks (.setLocal none init) .setIndex
  | setInitializer {index} : Lacks (.setLocal index none) .setInitializer

def leavesNothing : Instruction → Bool
  | .nop | .loop _ | .setLocal .. => true
  | _ => false

end Instruction

open Instruction

/-- What a fault says of the code of a frame at `depth`, of the limit and of the locals. -/
def Fault.Cause (limit : UInt64) (depth : Nat) (code : List Instruction) (locals : Locals) :
    Fault → Prop
  | .missingOperand operand => ∃ part ∈ partsAll code, part.Lacks operand
  | .stackUnderflow operator expected found =>
    expected = 2 ∧ found < 2 ∧ .binary operator ∈ partsAll code
  | .unpopulatedLocal index =>
    .getLocal (some index) ∈ partsAll code ∧ index.toNat < locals.size ∧
      locals.slots[index.toNat]? = some none
  | .localOutOfRange index size =>
    size = locals.size ∧ size ≤ index.toNat ∧
      (.getLocal (some index) ∈ partsAll code ∨
        ∃ init, .setLocal (some index) init ∈ partsAll code)
  | .unknownInstruction => .unknown ∈ partsAll code
  | .emptyInitializer index =>
    ∃ init, .setLocal (some index) (some init) ∈ partsAll code ∧ init.leavesNothing = true
  | .depthExceeded bound => bound = limit ∧ limit.toNat < depth + nestingAll code
  | .valueOutOfRange value type =>
    type = .i32 ∧ .const (some value) ∈ partsAll code ∧
      ¬ (Int32.minValue.toInt ≤ value.toInt ∧ value.toInt ≤ Int32.maxValue.toInt)
  | .typeMismatch operator lhs rhs => lhs ≠ rhs ∧ .binary operator ∈ partsAll code
  | .unsupportedOperator _ => False

namespace Fault.Cause

variable {limit : UInt64} {depth : Nat} {instruction : Instruction} {rest body : List Instruction}
  {locals : Locals} {fault : Fault}

theorem lift {level : Nat} {code : List Instruction} (cause : fault.Cause limit level body locals)
    (parts : ∀ part ∈ partsAll body, part ∈ partsAll code)
    (levels : level + nestingAll body ≤ depth + nestingAll code) :
    fault.Cause limit depth code locals := by
  cases fault with
  | missingOperand operand =>
    obtain ⟨part, member, lacks⟩ := cause
    exact ⟨part, parts part member, lacks⟩
  | stackUnderflow operator expected found =>
    exact ⟨cause.1, cause.2.1, parts _ cause.2.2⟩
  | unpopulatedLocal index => exact ⟨parts _ cause.1, cause.2⟩
  | localOutOfRange index size =>
    obtain ⟨same, outside, read | ⟨init, written⟩⟩ := cause
    · exact ⟨same, outside, .inl (parts _ read)⟩
    · exact ⟨same, outside, .inr ⟨init, parts _ written⟩⟩
  | unknownInstruction => exact parts _ cause
  | emptyInitializer index =>
    obtain ⟨init, member, blank⟩ := cause
    exact ⟨init, parts _ member, blank⟩
  | depthExceeded bound => exact ⟨cause.1, Nat.lt_of_lt_of_le cause.2 levels⟩
  | valueOutOfRange value type => exact ⟨cause.1, parts _ cause.2.1, cause.2.2⟩
  | typeMismatch operator lhs rhs => exact ⟨cause.1, parts _ cause.2⟩
  | unsupportedOperator symbol => exact cause

theorem tail (cause : fault.Cause limit depth rest locals) :
    fault.Cause limit depth (instruction :: rest) locals := by
  apply cause.lift
  · intro part member
    exact mem_partsAll_tail member
  · exact Nat.add_le_add_left (nestingAll_tail_le instruction rest) depth

/-- The depth word of a child is at most one more, so a child that is too deep by its word is so by
its nesting. -/
theorem child {word : UInt64} (cause : fault.Cause limit (word + 1).toNat body locals)
    (child : instruction.child? = some body) :
    fault.Cause limit word.toNat (instruction :: rest) locals := by
  apply cause.lift
  · intro part member
    exact mem_partsAll_child child member
  · have next := toNat_succ_le word
    have deeper := nestingAll_child_lt child rest
    omega

/-- What a fault says of some locals it says of earlier ones, of the same number, in which no slot has
a value that was taken away since. -/
theorem earlier {code : List Instruction} {before : Locals} (cause : fault.Cause limit depth code locals)
    (size : locals.size = before.size)
    (unpopulated : ∀ position : Nat, locals.slots[position]? = some none →
      before.slots[position]? = some none) :
    fault.Cause limit depth code before := by
  cases fault with
  | unpopulatedLocal index =>
    obtain ⟨read, inside, empty⟩ := cause
    exact ⟨read, size ▸ inside, unpopulated _ empty⟩
  | localOutOfRange index bound =>
    obtain ⟨same, outside, named⟩ := cause
    exact ⟨same.trans size, outside, named⟩
  | missingOperand | stackUnderflow | unknownInstruction | emptyInitializer | depthExceeded
  | valueOutOfRange | typeMismatch | unsupportedOperator => exact cause

end Fault.Cause

theorem Instruction.Stops.cause {instruction : Instruction} {rest : List Instruction}
    {memory : Memory} {fault : Fault} (stops : instruction.Stops memory (.fault fault))
    (limit : UInt64) (depth : Nat) :
    fault.Cause limit depth (instruction :: rest) memory.locals := by
  have here : instruction ∈ partsAll (instruction :: rest) := mem_partsAll_head
  cases stops with
  | noValue => exact ⟨_, here, .constValue⟩
  | noSource => exact ⟨_, here, .getIndex⟩
  | noTarget => exact ⟨_, here, .setIndex⟩
  | noInitializer => exact ⟨_, here, .setInitializer⟩
  | const made =>
    obtain ⟨rfl, large⟩ := Value.create_i32_eq_error made
    exact ⟨rfl, here, large⟩
  | read got =>
    rcases Locals.get_eq_error got with ⟨rfl, empty⟩ | ⟨rfl, outside⟩
    · exact ⟨here, (List.getElem?_eq_some_iff.mp empty).1, empty⟩
    · exact ⟨rfl, outside, .inl here⟩
  | underflow short => exact ⟨rfl, short, here⟩
  | operate found applied =>
    obtain ⟨rfl, differ⟩ := Operator.apply_eq_error applied
    exact ⟨differ, here⟩
  | unknown => exact here

/-- An initializer that ran to its end and left no value is of a kind that never does. -/
theorem Runs.initializer_leavesNothing {limit depth : UInt64} {init : Instruction} {locals : Locals}
    {after : Memory} {events : List Event}
    (run : Runs limit depth 0 [init] ⟨[], locals⟩ events none after) (left : after.values = []) :
    init.leavesNothing = true := by
  cases run with
  | simple leaf completes remaining =>
    cases remaining
    simp only at left
    subst left
    cases completes_of_effect leaf completes <;> rfl
  | nested child => cases child_of_child? child <;> rfl

theorem Runs.refusal_cause {limit depth : UInt64} {instruction : Instruction}
    {rest body : List Instruction} {before : Locals} {inner : Memory} {events : List Event}
    {fault : Fault} (child : instruction.child? = some body)
    (nested : Runs limit (depth + 1) 0 body ⟨[], before⟩ events none inner)
    (fails : instruction.finish inner = .error fault) (level : Nat) :
    fault.Cause limit level (instruction :: rest) inner.locals := by
  have here : instruction ∈ partsAll (instruction :: rest) := mem_partsAll_head
  obtain ⟨index, init, rfl, ⟨left, rfl⟩ | ⟨rfl, outside⟩⟩ := finish_eq_error fails
  · cases child_of_child? child
    exact ⟨_, here, nested.initializer_leavesNothing left⟩
  · exact ⟨rfl, outside, .inr ⟨init, here⟩⟩

theorem Runs.cause {limit depth : UInt64} {pc : Nat} {code : List Instruction}
    {before after : Memory} {events : List Event} {fault : Fault}
    (run : Runs limit depth pc code before events (some (.fault fault)) after) :
    fault.Cause limit depth.toNat code after.locals := by
  generalize ends : some (Stop.fault fault) = stop at run
  induction run with
  | finished => cases ends
  | simple _ _ _ ih | nested _ _ _ _ _ _ ih => exact (ih ends).tail
  | halted _ stops =>
    cases ends
    exact (stops_of_effect stops).cause limit _
  | @tooDeep depth _ _ rest _ _ child deep =>
    cases ends
    have next := toNat_succ_le depth
    have deeper := nestingAll_child_lt child rest
    rw [UInt64.lt_iff_toNat_lt] at deep
    exact ⟨rfl, by omega⟩
  | childHalted child _ _ ih => exact (ih ends).child child
  | refused child _ nested fails _ =>
    cases ends
    exact nested.refusal_cause child fails _

namespace Machine

variable {σ : Type}

/-- Every fault of a run has its cause in the code, the limit and the locals, in the locals that the
run was given as in those it left. -/
theorem run_fault_cause (machine : Machine σ) (code : List Instruction) (locals : Locals) (seen : σ)
    (fault : Fault) :
    let (result, after) := machine.run code locals seen
    result = .error fault →
      fault.Cause machine.limit 0 code locals ∧ fault.Cause machine.limit 0 code after.locals := by
  obtain ⟨stop, after, run, ran⟩ := machine.run_runs code locals
  simp only [ran seen]
  intro failed
  obtain rfl := Memory.result_error failed
  have last := run.cause
  exact ⟨last.earlier run.size fun _ => run.unpopulated, last⟩

theorem run_fault_cause_unpopulated :
    let machine : Machine Unit := ⟨1, .silent⟩
    let locals : Locals := ⟨[none, none]⟩
    let code : List Instruction :=
      [.setLocal (some 0) (some (.const (some 7))), .loop [.getLocal (some 0), .getLocal (some 1)]]
    let (result, after) := machine.run code locals ()
    result = .error (.unpopulatedLocal 1) ∧
      Fault.Cause machine.limit 0 code locals (.unpopulatedLocal 1) ∧
      Fault.Cause machine.limit 0 code after.locals (.unpopulatedLocal 1) := by
  intro machine locals code
  have failed : (machine.run code locals ()).1 = .error (.unpopulatedLocal 1) := rfl
  exact ⟨failed, machine.run_fault_cause code locals () (.unpopulatedLocal 1) failed⟩

end Machine

end FrameMachine
