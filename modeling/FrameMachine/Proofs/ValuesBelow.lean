import FrameMachine.Proofs.Execution

/-! Values that lie below. A frame keeps what an earlier execution left on its value stack, and code that
never reaches down to it runs as if it were not there. Only an operator reads values, so the one way to
reach too far down is to find fewer than two of them. A nested frame has values of its own and sees none
of these. The end of the code is the exception: it answers the topmost value, whoever left it. -/

namespace FrameMachine

namespace Instruction

variable {instruction : Instruction} {memory : Memory} {values : List Value}

private theorem pushed_below {stop : Option Stop} {left : List Value} {made : Except Fault Value}
    (effect : pushed values made = (stop, left)) (below : List Value) :
    pushed (values ++ below) made = (stop, left ++ below) := by
  cases made <;> cases effect <;> rfl

/-- An instruction that found the values it needs does the same with others below them. That holds of
operands of different types too, which are gone by the time they are compared. -/
theorem effect_below {stop : Option Stop} (effect : instruction.effect memory = (stop, values))
    (enough : ∀ operator expected found,
      stop ≠ some (.fault (.stackUnderflow operator expected found)))
    (below : List Value) :
    instruction.effect ⟨memory.values ++ below, memory.locals⟩ = (stop, values ++ below) := by
  obtain ⟨found, locals⟩ := memory
  cases instruction with
  | const value =>
    cases value with
    | none => cases effect; rfl
    | some n => exact pushed_below effect below
  | getLocal index =>
    cases index with
    | none => cases effect; rfl
    | some index => exact pushed_below effect below
  | setLocal index init => cases index <;> cases init <;> cases effect <;> rfl
  | binary operator =>
    cases found with
    | nil => cases effect; exact (enough _ _ _ rfl).elim
    | cons rhs lower =>
      cases lower with
      | nil => cases effect; exact (enough _ _ _ rfl).elim
      | cons lhs rest => exact pushed_below effect below
  | nop | loop | trap | unknown => cases effect; rfl

end Instruction

theorem Runs.values_below {limit depth : UInt64} {pc : Nat} {code : List Instruction}
    {before after : Memory} {events : List Event} {stop : Option Stop}
    (run : Runs limit depth pc code before events stop after)
    (enough : ∀ operator expected found,
      stop ≠ some (.fault (.stackUnderflow operator expected found)))
    (below : List Value) :
    Runs limit depth pc code ⟨before.values ++ below, before.locals⟩ events stop
      ⟨after.values ++ below, after.locals⟩ := by
  -- What is nested starts from no values in both executions, so it is the same derivation.
  induction run with
  | finished => exact .finished
  | simple leaf completes _ ih =>
    exact .simple leaf (Instruction.effect_below completes nofun below) (ih enough)
  | halted leaf stops => exact .halted leaf (Instruction.effect_below stops enough below)
  | tooDeep child deep => exact .tooDeep child deep
  | childHalted child shallow nested _ =>
    simp only
    exact .childHalted child shallow nested
  | refused child shallow nested fails _ =>
    simp only
    exact .refused child shallow nested fails
  | nested child shallow nested completes _ _ ih =>
    exact .nested child shallow nested completes (ih enough)

theorem Memory.result_below {memory : Memory} {stop : Option Stop}
    (answers : (memory.result stop).1 ≠ .ok .empty) (below : List Value) (locals : Locals) :
    (⟨memory.values ++ below, locals⟩ : Memory).result stop =
      ((memory.result stop).1, (memory.result stop).2 ++ below) := by
  obtain ⟨values, kept⟩ := memory
  cases stop with
  | some stop => cases stop <;> rfl
  | none =>
    cases values with
    | nil => exact (answers rfl).elim
    | cons v rest => rfl

theorem Memory.result_eq_empty {memory : Memory} {stop : Option Stop}
    (empty : (memory.result stop).1 = .ok .empty) : stop = none ∧ memory.values = [] := by
  obtain ⟨values, kept⟩ := memory
  cases stop with
  | some stop => cases stop <;> cases empty
  | none =>
    cases values with
    | nil => exact ⟨rfl, rfl⟩
    | cons v rest => cases empty

namespace Machine

variable {σ : Type}

/-- Values below change nothing. An execution that does not run out of values leaves the same locals and
reports the same events with more values below its own. Unless it had no value to answer it gives the
same result and leaves the others in place; if it had none, it answers the topmost of those below. -/
theorem execute_below (machine : Machine σ) (depth : UInt64) (code : List Instruction)
    (values below : List Value) (locals : Locals) (seen : σ) :
    let (result, after) := machine.execute depth code ⟨values, locals, seen⟩
    let (lower, left) := machine.execute depth code ⟨values ++ below, locals, seen⟩
    (∀ operator expected found, result ≠ .error (.stackUnderflow operator expected found)) →
      left.locals = after.locals ∧ left.seen = after.seen ∧
      machine.events depth code (values ++ below) locals = machine.events depth code values locals ∧
      (result ≠ .ok .empty → lower = result ∧ left.values = after.values ++ below) ∧
      (result = .ok .empty →
        match below with
        | [] => lower = .ok .empty ∧ left.values = []
        | top :: rest => lower = .ok (.value top) ∧ left.values = rest) := by
  by_cases deep : machine.limit < depth
  · simp [machine.execute_tooDeep deep, machine.events_tooDeep deep]
  · obtain ⟨stop, after, run, executed⟩ := machine.execute_runs deep code values locals
    simp only [executed seen]
    intro enough
    have sound : ∀ operator expected found,
        stop ≠ some (.fault (.stackUnderflow operator expected found)) := by
      rintro operator expected found rfl
      exact enough operator expected found rfl
    have lower := run.values_below sound below
    simp only [machine.execute_of_runs deep lower seen, machine.events_of_runs deep lower]
    refine ⟨trivial, trivial, trivial, ?_, ?_⟩
    · intro answers
      simp only [Memory.result_below answers, and_self]
    · intro empty
      obtain ⟨rfl, none⟩ := Memory.result_eq_empty empty
      rw [none, List.nil_append]
      cases below with
      | nil => exact ⟨rfl, rfl⟩
      | cons top rest => exact ⟨rfl, rfl⟩

/-- Operands of different types are taken off without a look at what is below them, and a block leaves
nothing to answer, so the frame answers what was below. -/
theorem execute_below_mismatch_and_block :
    let machine : Machine Unit := ⟨4, .silent⟩
    let locals : Locals := ⟨[some (.i32 2)]⟩
    let mixed : List Instruction := [.loop [.const (some 5)], .getLocal (some 0), .binary .sub]
    let block : List Instruction := [.loop [.const (some 5)]]
    let below : List Value := [.i32 7, .i64 8]
    let mismatch := Except.error (.typeMismatch .sub .i64 .i32)
    (machine.execute 3 mixed ⟨[.i64 1], locals, ()⟩).1 = mismatch ∧
    (machine.execute 3 mixed ⟨.i64 1 :: below, locals, ()⟩).1 = mismatch ∧
    (machine.execute 3 mixed ⟨.i64 1 :: below, locals, ()⟩).2.values = below ∧
    (machine.execute 3 block ⟨[], locals, ()⟩).1 = .ok .empty ∧
    (machine.execute 3 block ⟨below, locals, ()⟩).1 = .ok (.value (.i32 7)) ∧
    (machine.execute 3 block ⟨below, locals, ()⟩).2.values = [.i64 8] := by
  intro machine locals mixed block below mismatch
  obtain ⟨_, _, _, same, _⟩ := machine.execute_below 3 mixed [.i64 1] below locals () nofun
  obtain ⟨_, _, _, _, answers⟩ := machine.execute_below 3 block [] below locals () nofun
  obtain ⟨result, left⟩ := same nofun
  obtain ⟨value, rest⟩ := answers rfl
  exact ⟨rfl, result, left, rfl, value, rest⟩

end Machine

end FrameMachine
