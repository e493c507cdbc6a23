import FrameMachine.Proofs.FaultCause

/-! The types of values. A value comes from the values and slots that an execution is given or from a
constant of its code, and an operator keeps the type of its operands. So where all of these are of one
type, every value that is ever met is of that type, and no operator meets two types. -/

namespace FrameMachine

open Instruction

def ValueType.Admits (type : ValueType) (slot : Option Value) : Prop := ∀ v ∈ slot, v.type = type

/-- The values of the stack and of all populated slots are of one type. -/
structure Memory.Uniform (type : ValueType) (memory : Memory) : Prop where
  slots : ∀ slot ∈ memory.locals.slots, type.Admits slot
  values : ∀ v ∈ memory.values, v.type = type

/-- Constants are 32-bit integers, so only code for the other type has to do without them. -/
theorem Instruction.constants_admitted {type : ValueType} {code : List Instruction}
    (without : type = .i64 → ∀ value, .const value ∉ partsAll code) :
    ConstantsSatisfy type.Admits code := by
  intro n v member made
  cases type with
  | i32 =>
    obtain ⟨_, rfl⟩ := Value.create_i32_eq_ok made
    rintro _ ⟨⟩
    rfl
  | i64 => exact absurd member (without rfl _)

theorem Memory.Uniform.operands {type : ValueType} {memory : Memory} {rhs lhs : Value}
    {rest : List Value} (uniform : memory.Uniform type)
    (found : memory.values = rhs :: lhs :: rest) :
    lhs.type = type ∧ rhs.type = type ∧ ∀ v ∈ rest, v.type = type := by
  have typed := uniform.values
  simp only [found, List.forall_mem_cons] at typed
  exact ⟨typed.2.1, typed.1, typed.2.2⟩

namespace Instruction

variable {instruction : Instruction} {memory : Memory} {values : List Value} {type : ValueType}

theorem Completes.uniform (completes : instruction.Completes memory values)
    (uniform : memory.Uniform type) {rest : List Instruction}
    (constants : ConstantsSatisfy type.Admits (instruction :: rest)) :
    (⟨values, memory.locals⟩ : Memory).Uniform type := by
  refine ⟨uniform.slots, ?_⟩
  cases completes with
  | nop | emptyLoop => exact uniform.values
  | const made =>
    have constant := constants _ _ mem_partsAll_head made _ rfl
    exact List.forall_mem_cons.mpr ⟨constant, uniform.values⟩
  | read got =>
    have held := uniform.slots _ (List.mem_of_getElem? (Locals.get_eq_ok got)) _ rfl
    exact List.forall_mem_cons.mpr ⟨held, uniform.values⟩
  | @operate operator _ _ _ _ found applied =>
    obtain ⟨left, right, below⟩ := uniform.operands found
    obtain ⟨result, given, kept⟩ := operator.apply_type (left.trans right.symm)
    cases applied.symm.trans given
    exact List.forall_mem_cons.mpr ⟨kept.trans left, below⟩

private theorem pushed_stop {made : Except Fault Value} {stop : Stop} {left : List Value}
    (stops : pushed values made = (some stop, left)) : left <:+ values := by
  cases made <;> cases stops
  exact List.suffix_rfl

/-- An instruction that stops leaves the values it found, or those below its operands. -/
theorem effect_stop_suffix {stop : Stop} (stops : instruction.effect memory = (some stop, values)) :
    values <:+ memory.values := by
  obtain ⟨found, locals⟩ := memory
  cases instruction with
  | const value =>
    cases value with
    | none => cases stops; exact List.suffix_rfl
    | some n => exact pushed_stop stops
  | getLocal index =>
    cases index with
    | none => cases stops; exact List.suffix_rfl
    | some index => exact pushed_stop stops
  | setLocal index init => cases index <;> cases init <;> cases stops <;> exact List.suffix_rfl
  | binary operator =>
    cases found with
    | nil => cases stops; exact List.suffix_rfl
    | cons rhs below =>
      cases below with
      | nil => cases stops; exact List.suffix_rfl
      | cons lhs rest =>
        have operands := (List.suffix_cons lhs rest).trans (List.suffix_cons rhs (lhs :: rest))
        exact (pushed_stop stops).trans operands
  | trap | unknown => cases stops; exact List.suffix_rfl
  | nop | loop => cases stops

theorem Stops.uniform {stop : Stop} (stops : instruction.Stops memory stop)
    (uniform : memory.Uniform type) (operator : Operator) (lhs rhs : ValueType) :
    stop ≠ .fault (.typeMismatch operator lhs rhs) := by
  rintro rfl
  cases stops with
  | const made => cases (Value.create_i32_eq_error made).1
  | read got => rcases Locals.get_eq_error got with ⟨same, _⟩ | ⟨same, _⟩ <;> cases same
  | operate found applied =>
    obtain ⟨left, right, _⟩ := uniform.operands found
    exact (Operator.apply_eq_error applied).2 (left.trans right.symm)

end Instruction

theorem Runs.uniform {limit depth : UInt64} {pc : Nat} {code : List Instruction}
    {before after : Memory} {events : List Event} {stop : Option Stop} {type : ValueType}
    (run : Runs limit depth pc code before events stop after)
    (constants : ConstantsSatisfy type.Admits code) (uniform : before.Uniform type) :
    after.Uniform type ∧
      ∀ operator lhs rhs, stop ≠ some (.fault (.typeMismatch operator lhs rhs)) := by
  induction run with
  | finished | tooDeep => exact ⟨uniform, nofun⟩
  | simple leaf completes _ ih =>
    apply ih constants.tail
    exact (completes_of_effect leaf completes).uniform uniform constants
  | halted _ stops =>
    refine ⟨⟨uniform.slots, ?_⟩, ?_⟩
    · intro v member
      exact uniform.values v ((effect_stop_suffix stops).subset member)
    · intro operator lhs rhs mismatch
      exact (stops_of_effect stops).uniform uniform operator lhs rhs (Option.some.inj mismatch)
  | childHalted child _ _ ih =>
    obtain ⟨inner, matching⟩ := ih (constants.child child) ⟨uniform.slots, by simp⟩
    exact ⟨⟨inner.slots, uniform.values⟩, matching⟩
  | refused child _ _ fails ih =>
    obtain ⟨inner, _⟩ := ih (constants.child child) ⟨uniform.slots, by simp⟩
    refine ⟨⟨inner.slots, uniform.values⟩, ?_⟩
    rintro operator lhs rhs ⟨⟩
    obtain ⟨_, _, _, ⟨_, empty⟩ | ⟨outside, _⟩⟩ := finish_eq_error fails
    · cases empty
    · cases outside
  | nested child _ nested completes _ _ ih =>
    have slots := nested.completed_slots child completes (constants.child child) uniform.slots
    exact ih constants.tail ⟨slots, uniform.values⟩

/-- What a frame answers and keeps is of the type of what its code left. -/
theorem Memory.Uniform.result {type : ValueType} {memory : Memory} (uniform : memory.Uniform type)
    (stop : Option Stop) :
    (∀ v, (memory.result stop).1 = .ok (.value v) → v.type = type) ∧
      (⟨(memory.result stop).2, memory.locals⟩ : Memory).Uniform type := by
  obtain ⟨values, locals⟩ := memory
  cases stop with
  | some stop => cases stop <;> exact ⟨nofun, uniform⟩
  | none =>
    cases values with
    | nil => exact ⟨nofun, uniform⟩
    | cons top rest =>
      obtain ⟨typed, below⟩ := List.forall_mem_cons.mp uniform.values
      refine ⟨?_, uniform.slots, below⟩
      rintro _ ⟨⟩
      exact typed

namespace Machine

variable {σ : Type}

/-- Execution keeps to one type. A frame whose values and populated slots are all of one type never
meets operands of two types, answers a value of that type if any, and whatever its result leaves nothing
of the other type. Constants are 32-bit integers, so with the wider type the code must have none. -/
theorem execute_uniform (machine : Machine σ) (type : ValueType) (depth : UInt64)
    (code : List Instruction) (values : List Value) (locals : Locals) (seen : σ)
    (uniform : (⟨values, locals⟩ : Memory).Uniform type)
    (without : type = .i64 → ∀ value, .const value ∉ partsAll code) :
    let executed := machine.execute depth code ⟨values, locals, seen⟩
    (∀ operator lhs rhs, executed.1 ≠ .error (.typeMismatch operator lhs rhs)) ∧
    (∀ v, executed.1 = .ok (.value v) → v.type = type) ∧
    (⟨executed.2.values, executed.2.locals⟩ : Memory).Uniform type := by
  intro executed
  by_cases deep : machine.limit < depth
  · simp only [executed, machine.execute_tooDeep deep]
    exact ⟨nofun, nofun, uniform⟩
  · obtain ⟨stop, after, run, ran⟩ := machine.execute_runs deep code values locals
    obtain ⟨kept, matching⟩ := run.uniform (constants_admitted without) uniform
    simp only [executed, ran seen]
    refine ⟨?_, kept.result stop⟩
    intro operator lhs rhs failed
    exact matching operator lhs rhs (Memory.result_error failed)

/-- With 64-bit values nested frames copy and multiply them, and a trap leaves one of them behind; with
32-bit values a constant may take part. -/
theorem execute_uniform_wide_and_constant :
    let machine : Machine Unit := ⟨3, .silent⟩
    let wide : Locals := ⟨[some (.i64 5), none]⟩
    let copying : List Instruction :=
      [.setLocal (some 1) (some (.getLocal (some 0))),
        .loop [.getLocal (some 1), .getLocal (some 0), .binary .mul], .getLocal (some 1), .trap]
    let narrow : Locals := ⟨[none, some (.i32 4)]⟩
    let counting : List Instruction := [.getLocal (some 1), .const (some 2), .binary .sub, .binary .mul]
    let trapped := machine.execute 1 copying ⟨[.i64 9], wide, ()⟩
    let counted := machine.execute 1 counting ⟨[.i32 7], narrow, ()⟩
    (trapped.1 = .ok .trapped ∧ trapped.2.values = [.i64 5, .i64 9] ∧
      (⟨trapped.2.values, trapped.2.locals⟩ : Memory).Uniform .i64) ∧
    counted.1 = .ok (.value (.i32 14)) ∧
      (⟨counted.2.values, counted.2.locals⟩ : Memory).Uniform .i32 := by
  intro machine wide copying narrow counting trapped counted
  have wideOnly : (⟨[.i64 9], wide⟩ : Memory).Uniform .i64 :=
    ⟨by simp [wide, ValueType.Admits, Value.type], by simp [Value.type]⟩
  have narrowOnly : (⟨[.i32 7], narrow⟩ : Memory).Uniform .i32 :=
    ⟨by simp [narrow, ValueType.Admits, Value.type], by simp [Value.type]⟩
  obtain ⟨_, _, left⟩ := machine.execute_uniform .i64 1 copying [.i64 9] wide () wideOnly
    (by simp [copying, partsAll, parts])
  obtain ⟨_, _, kept⟩ := machine.execute_uniform .i32 1 counting [.i32 7] narrow () narrowOnly (by simp)
  exact ⟨⟨rfl, rfl, left⟩, rfl, kept⟩

end Machine

end FrameMachine
