import FrameMachine.Proofs.FaultCause

/-! Remaining depth. What a frame does depends on the limit and on its own depth only through their
difference: put a frame and its limit some levels lower, and every nested frame is these levels lower and
meets the limit where it did before. Only the depths of events and the limit named by a fault tell. -/

namespace FrameMachine

def Fault.underLimit (limit : UInt64) : Fault → Fault
  | .depthExceeded _ => .depthExceeded limit
  | fault => fault

def Stop.underLimit (limit : UInt64) : Stop → Stop
  | .trap => .trap
  | .fault met => .fault (met.underLimit limit)

def Event.lower (levels : UInt64) (event : Event) : Event :=
  { event with depth := event.depth + levels }

namespace Instruction

variable {instruction : Instruction}

theorem Stops.underLimit {memory : Memory} {stop : Stop} (stops : instruction.Stops memory stop)
    (limit : UInt64) : stop.underLimit limit = stop := by
  cases stops with
  | const made =>
    obtain ⟨rfl, _⟩ := Value.create_i32_eq_error made
    rfl
  | read got => rcases Locals.get_eq_error got with ⟨rfl, _⟩ | ⟨rfl, _⟩ <;> rfl
  | operate _ applied =>
    obtain ⟨rfl, _⟩ := Operator.apply_eq_error applied
    rfl
  | trap | noValue | noSource | noTarget | noInitializer | underflow | unknown => rfl

theorem finish_underLimit {child : Memory} {fault : Fault}
    (refused : instruction.finish child = .error fault) (limit : UInt64) :
    fault.underLimit limit = fault := by
  obtain ⟨_, _, _, ⟨_, rfl⟩ | ⟨rfl, _⟩⟩ := finish_eq_error refused <;> rfl

end Instruction

open Instruction

private theorem succ_add (depth levels : UInt64) : depth + 1 + levels = depth + levels + 1 := by
  rw [UInt64.add_assoc, UInt64.add_comm 1 levels, ← UInt64.add_assoc]

/-- The limit can be put that many levels lower and leaves a word for the first frame beyond it, so no
depth comes round. -/
def Lowers (limit levels : UInt64) : Prop := limit.toNat + levels.toNat + 1 < UInt64.size

namespace Lowers

variable {limit levels depth : UInt64}

theorem toNat_add (lowers : Lowers limit levels) (within : depth ≤ limit) :
    (depth + levels).toNat = depth.toNat + levels.toNat := by
  rw [UInt64.le_iff_toNat_le] at within
  have word := UInt64.toNat_add depth levels
  simp only [Lowers, UInt64.size] at lowers
  omega

/-- A nested frame meets the lowered limit exactly if it met the limit. -/
theorem lt_iff (lowers : Lowers limit levels) (within : depth ≤ limit) :
    limit + levels < depth + levels + 1 ↔ limit < depth + 1 := by
  have bound := lowers.toNat_add (UInt64.le_refl limit)
  have frame := lowers.toNat_add within
  have above := toNat_succ depth
  have below := toNat_succ (depth + levels)
  rw [UInt64.le_iff_toNat_le] at within
  rw [UInt64.lt_iff_toNat_lt, UInt64.lt_iff_toNat_lt]
  simp only [Lowers, UInt64.size] at lowers above below
  omega

end Lowers

/-- An execution put some levels lower, with its limit. -/
theorem Runs.lower {limit levels depth : UInt64} {pc : Nat} {code : List Instruction}
    {before after : Memory} {events : List Event} {stop : Option Stop}
    (run : Runs limit depth pc code before events stop after) (lowers : Lowers limit levels)
    (within : depth ≤ limit) :
    Runs (limit + levels) (depth + levels) pc code before (events.map (Event.lower levels))
      (stop.map (Stop.underLimit (limit + levels))) after := by
  induction run with
  | finished => exact .finished
  | simple leaf completes _ ih => exact .simple leaf completes (ih within)
  | halted leaf stops =>
    rw [Option.map_some, (stops_of_effect stops).underLimit]
    exact .halted leaf stops
  | tooDeep child deep => exact .tooDeep child ((lowers.lt_iff within).mpr deep)
  | childHalted child shallow _ ih =>
    have nested := ih (UInt64.not_lt.mp shallow)
    rw [succ_add] at nested
    exact .childHalted child (mt (lowers.lt_iff within).mp shallow) nested
  | refused child shallow _ fails ih =>
    have nested := ih (UInt64.not_lt.mp shallow)
    rw [succ_add] at nested
    rw [Option.map_some, Stop.underLimit, finish_underLimit fails]
    exact .refused child (mt (lowers.lt_iff within).mp shallow) nested fails
  | nested child shallow _ completes _ inner ih =>
    have nested := inner (UInt64.not_lt.mp shallow)
    rw [succ_add] at nested
    rw [List.map_append, List.map_cons]
    exact .nested child (mt (lowers.lt_iff within).mp shallow) nested completes (ih within)

theorem Memory.result_underLimit (memory : Memory) (stop : Option Stop) (limit : UInt64) :
    memory.result (stop.map (Stop.underLimit limit)) =
      ((memory.result stop).1.mapError (Fault.underLimit limit), (memory.result stop).2) := by
  obtain ⟨values, locals⟩ := memory
  cases stop with
  | some stop => cases stop <;> rfl
  | none => cases values <;> rfl

namespace Machine

variable {σ : Type}

/-- Only the remaining depth matters. Below a limit that is not the largest word, a frame at some depth
answers like one at depth 0 under the limit less that depth and leaves the same values and locals, except
that a depth fault names its own limit; and each of its events is that depth deeper. -/
theorem execute_remaining_depth (machine : Machine σ) {depth : UInt64} (within : depth ≤ machine.limit)
    (small : machine.limit.toNat + 1 < UInt64.size) (code : List Instruction) (values : List Value)
    (locals : Locals) (seen : σ) :
    let raised : Machine σ := ⟨machine.limit - depth, machine.observer⟩
    let deep := machine.execute depth code ⟨values, locals, seen⟩
    let flat := raised.execute 0 code ⟨values, locals, seen⟩
    deep.2.values = flat.2.values ∧ deep.2.locals = flat.2.locals ∧
    deep.1 = flat.1.mapError (Fault.underLimit machine.limit) ∧
    (∀ bound, flat.1 = .error (.depthExceeded bound) → bound = machine.limit - depth) ∧
    (machine.events depth code values locals).map
        (fun event => (event.depth.toNat, event.pc, event.instruction)) =
      (raised.events 0 code values locals).map
        fun event => (event.depth.toNat + depth.toNat, event.pc, event.instruction) := by
  intro raised deep flat
  have lowers : Lowers raised.limit depth := by
    have difference : raised.limit.toNat = machine.limit.toNat - depth.toNat :=
      UInt64.toNat_sub_of_le machine.limit depth within
    rw [UInt64.le_iff_toNat_le] at within
    simp only [Lowers]
    omega
  have outermost : ¬ raised.limit < 0 := UInt64.not_lt.mpr UInt64.zero_le
  obtain ⟨stop, after, run, ran⟩ := raised.execute_runs outermost code values locals
  have lowered := run.lower lowers UInt64.zero_le
  rw [UInt64.zero_add, show raised.limit + depth = machine.limit from UInt64.sub_add_cancel _ _] at lowered
  have shallow := UInt64.not_lt.mpr within
  simp only [deep, flat, ran seen, machine.execute_of_runs shallow lowered, Memory.result_underLimit]
  refine ⟨trivial, trivial, trivial, ?_, ?_⟩
  · intro bound failed
    obtain rfl := Memory.result_error failed
    exact run.cause.1
  · rw [machine.events_of_runs shallow lowered, List.map_map]
    apply List.map_congr_left
    intro event member
    have exact := lowers.toNat_add (run.event_within UInt64.zero_le event member)
    simp only [Function.comp, Event.lower, exact]

/-- Four levels down a limit of 6 is met by the third nested frame, as a limit of 2 is at depth 0. -/
theorem execute_remaining_depth_third_frame :
    let code : List Instruction :=
      [.const (some 1), .loop [.setLocal (some 0) (some (.const (some 3))), .loop [.nop, .loop [.nop]]]]
    let deep := (⟨6, .silent⟩ : Machine Unit).execute 4 code ⟨[], ⟨[none]⟩, ()⟩
    let flat := (⟨6 - 4, .silent⟩ : Machine Unit).execute 0 code ⟨[], ⟨[none]⟩, ()⟩
    (4 : UInt64) ≤ 6 ∧ (6 : UInt64).toNat + 1 < UInt64.size ∧
    deep.1 = .error (.depthExceeded 6) ∧ flat.1 = .error (.depthExceeded 2) ∧
    deep.2.values = flat.2.values ∧ deep.2.locals = flat.2.locals ∧
    deep.1 = flat.1.mapError (Fault.underLimit 6) := by
  intro code deep flat
  have within : (4 : UInt64) ≤ 6 := by decide
  have small : (6 : UInt64).toNat + 1 < UInt64.size := by decide
  obtain ⟨values, locals, result, _⟩ :=
    (⟨6, .silent⟩ : Machine Unit).execute_remaining_depth within small code [] ⟨[none]⟩ ()
  exact ⟨within, small, rfl, rfl, values, locals, result⟩

end Machine

end FrameMachine
