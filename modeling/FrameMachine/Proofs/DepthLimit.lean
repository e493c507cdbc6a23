import FrameMachine.Proofs.FaultCause

/-! The limit on depth. Two executions of the same code under two limits are one up to the first frame
that is too deep for the lower limit; if there is no such frame they never part. And a limit is exact
for static nesting: code nested no deeper never meets it, and code that ran to its end, and so entered
every frame in it, is nested no deeper. -/

namespace FrameMachine

namespace Runs

variable {low high : UInt64}

private theorem still_shallow {depth : UInt64} (raised : low ≤ high) (shallow : ¬ low < depth) :
    ¬ high < depth :=
  UInt64.not_lt.mpr (UInt64.le_trans (UInt64.not_lt.mp shallow) raised)

/-- An execution that was not cut off by its limit is one under every higher limit. -/
theorem raise {depth : UInt64} {pc : Nat} {code : List Instruction} {before after : Memory}
    {events : List Event} {stop : Option Stop} (raised : low ≤ high)
    (run : Runs low depth pc code before events stop after)
    (uncut : ∀ limit, stop ≠ some (.fault (.depthExceeded limit))) :
    Runs high depth pc code before events stop after := by
  induction run with
  | finished => exact .finished
  | simple leaf completes _ ih => exact .simple leaf completes (ih uncut)
  | halted leaf stops => exact .halted leaf stops
  | tooDeep => exact (uncut low rfl).elim
  | childHalted child shallow _ ih =>
    exact .childHalted child (still_shallow raised shallow) (ih uncut)
  | refused child shallow _ fails ih =>
    exact .refused child (still_shallow raised shallow) (ih nofun) fails
  | nested child shallow _ completes _ inner ih =>
    exact .nested child (still_shallow raised shallow) (inner nofun) completes (ih uncut)

theorem of_child {limit depth : UInt64} {pc : Nat} {instruction : Instruction}
    {rest body : List Instruction} {before inner : Memory} {events : List Event} {stop : Option Stop}
    (child : instruction.child? = some body) (shallow : ¬ limit < depth + 1)
    (nested : Runs limit (depth + 1) 0 body ⟨[], before.locals⟩ events stop inner) :
    ∃ later stop after,
      Runs limit depth pc (instruction :: rest) before (events ++ later) stop after := by
  cases stop with
  | some stop => exact ⟨[], _, _, by simpa using Runs.childHalted child shallow nested⟩
  | none =>
    cases finish : instruction.finish inner with
    | error fault => exact ⟨[], _, _, by simpa using Runs.refused child shallow nested finish⟩
    | ok locals =>
      obtain ⟨later, stop, after, remaining⟩ :=
        Runs.exists limit depth (pc + 1) rest ⟨before.values, locals⟩
      exact ⟨_, _, _, .nested child shallow nested finish remaining⟩

/-- Under a higher limit there is an execution that reports at least as much, in the same order. -/
theorem raise_prefix {depth : UInt64} {pc : Nat} {code : List Instruction} {before after : Memory}
    {events : List Event} {stop : Option Stop} (raised : low ≤ high)
    (run : Runs low depth pc code before events stop after) :
    ∃ later stop after, Runs high depth pc code before (events ++ later) stop after := by
  induction run with
  | finished => exact ⟨[], _, _, .finished⟩
  | simple leaf completes _ ih =>
    obtain ⟨later, stop, after, remaining⟩ := ih
    exact ⟨later, stop, after, .simple leaf completes remaining⟩
  | halted leaf stops => exact ⟨[], _, _, .halted leaf stops⟩
  | tooDeep => exact Runs.exists high _ _ _ _
  | childHalted child shallow _ ih =>
    obtain ⟨more, stop, inner, nested⟩ := ih
    obtain ⟨later, stop, after, run⟩ := of_child child (still_shallow raised shallow) nested
    exact ⟨more ++ later, stop, after, by simpa only [List.append_assoc] using run⟩
  | refused child shallow nested fails _ =>
    have same := nested.raise raised nofun
    exact ⟨[], _, _, by simpa using Runs.refused child (still_shallow raised shallow) same fails⟩
  | nested child shallow nested completes _ _ ih =>
    obtain ⟨later, stop, after, remaining⟩ := ih
    have same := nested.raise raised nofun
    have run := Runs.nested child (still_shallow raised shallow) same completes remaining
    exact ⟨later, stop, after, by simpa using run⟩

end Runs

namespace Machine

variable {σ : Type}

/-- A higher limit only ever takes depth faults away. A run that met none is the same under it, in its
result, the state it leaves and its events; a run that met one reported the first of the events that
there are under the higher limit. -/
theorem run_raised_limit {low high : UInt64} (raised : low ≤ high) (observer : Observer σ)
    (code : List Instruction) (locals : Locals) (seen : σ) :
    let lower : Machine σ := ⟨low, observer⟩
    let higher : Machine σ := ⟨high, observer⟩
    ((∀ limit, (lower.run code locals seen).1 ≠ .error (.depthExceeded limit)) →
      higher.run code locals seen = lower.run code locals seen ∧
      higher.events 0 code [] locals = lower.events 0 code [] locals) ∧
    ∀ limit, (lower.run code locals seen).1 = .error (.depthExceeded limit) →
      lower.events 0 code [] locals <+: higher.events 0 code [] locals := by
  intro lower higher
  have outermost : ¬ higher.limit < 0 := UInt64.not_lt.mpr UInt64.zero_le
  obtain ⟨stop, after, run, ran⟩ := lower.run_runs code locals
  constructor
  · intro uncut
    have raisedRun :
        Runs higher.limit 0 0 code ⟨[], locals⟩ (lower.events 0 code [] locals) stop after := by
      apply run.raise raised
      rintro limit rfl
      exact uncut limit (by rw [ran]; rfl)
    refine ⟨?_, higher.events_of_runs outermost raisedRun⟩
    rw [ran]
    exact higher.execute_of_runs outermost raisedRun seen
  · intro limit _
    obtain ⟨later, stop, after, raisedRun⟩ := run.raise_prefix raised
    have events := higher.events_of_runs outermost raisedRun
    exact ⟨later, events.symm⟩

theorem run_raised_limit_one_two :
    let lower : Machine Unit := ⟨1, .silent⟩
    let higher : Machine Unit := ⟨2, .silent⟩
    let locals : Locals := ⟨[none]⟩
    let code : List Instruction := [.setLocal (some 0) (some (.const (some 7))), .loop [.loop [.nop]]]
    lower.limit ≤ higher.limit ∧ (lower.run code locals ()).1 = .error (.depthExceeded 1) ∧
      lower.events 0 code [] locals <+: higher.events 0 code [] locals := by
  intro lower higher locals code
  have raised : lower.limit ≤ higher.limit := by decide
  have cut : (lower.run code locals ()).1 = .error (.depthExceeded 1) := rfl
  exact ⟨raised, cut, (run_raised_limit raised .silent code locals ()).2 1 cut⟩

end Machine

open Instruction

theorem Instruction.Completes.nesting_eq_zero {instruction : Instruction} {memory : Memory}
    {values : List Value} (completes : instruction.Completes memory values) :
    instruction.nesting = 0 := by
  cases completes <;> simp only [nesting]

/-- Code that ran to its end entered every frame nested in it. -/
theorem Runs.nesting_le {limit depth : UInt64} {pc : Nat} {code : List Instruction}
    {before after : Memory} {events : List Event}
    (run : Runs limit depth pc code before events none after) (room : Room limit depth code) :
    depth.toNat + nestingAll code ≤ limit.toNat := by
  have within := UInt64.le_iff_toNat_le.mp room.within
  generalize ends : (none : Option Stop) = stop at run
  induction run with
  | finished => simpa only [nestingAll, Nat.add_zero] using within
  | simple leaf completes _ ih =>
    have rest := ih room.tail within ends
    have flat := (completes_of_effect leaf completes).nesting_eq_zero
    simp only [nestingAll]
    omega
  | halted | tooDeep | childHalted | refused => cases ends
  | nested child shallow _ _ _ inner ih =>
    have entered := UInt64.le_iff_toNat_le.mp (UInt64.not_lt.mp shallow)
    have body := inner (room.child child shallow) entered rfl
    have rest := ih room.tail within ends
    have deeper := child?_nesting child
    have next := room.next_level child
    simp only [nestingAll]
    omega

namespace Machine

variable {σ : Type}

/-- The limit is exact for the nesting of the code. Code nested no deeper never ends in a depth fault,
and code that ran to its end is nested no deeper. -/
theorem run_limit_exact (machine : Machine σ) (code : List Instruction) (locals : Locals) (seen : σ) :
    let result := (machine.run code locals seen).1
    (nestingAll code ≤ machine.limit.toNat → ∀ bound, result ≠ .error (.depthExceeded bound)) ∧
    (nestingAll code < UInt64.size → (∃ v, result = .ok (.value v)) ∨ result = .ok .empty →
      nestingAll code ≤ machine.limit.toNat) := by
  obtain ⟨stop, after, run, ran⟩ := machine.run_runs code locals
  simp only [ran seen]
  constructor
  · intro shallow bound failed
    obtain rfl := Memory.result_error failed
    obtain ⟨_, deep⟩ := run.cause
    rw [UInt64.toNat_zero, Nat.zero_add] at deep
    exact Nat.not_le.mpr deep shallow
  · intro small answered
    obtain rfl := Memory.result_ended answered
    have nested := run.nesting_le (.outermost (.inr small))
    rwa [UInt64.toNat_zero, Nat.zero_add] at nested

theorem run_limit_exact_two_levels :
    let machine : Machine Unit := ⟨2, .silent⟩
    let locals : Locals := ⟨[none]⟩
    let code : List Instruction :=
      [.loop [], .loop [.setLocal (some 0) (some (.const (some 7)))], .getLocal (some 0)]
    nestingAll code = machine.limit.toNat ∧ nestingAll code < UInt64.size ∧
      (machine.run code locals ()).1 = .ok (.value (.i32 7)) ∧
      (∀ bound, (machine.run code locals ()).1 ≠ .error (.depthExceeded bound)) ∧
      nestingAll code ≤ machine.limit.toNat := by
  intro machine locals code
  have nested : nestingAll code = machine.limit.toNat := by decide
  have small : nestingAll code < UInt64.size := by decide
  have answered : (machine.run code locals ()).1 = .ok (.value (.i32 7)) := rfl
  obtain ⟨never, bounded⟩ := machine.run_limit_exact code locals ()
  exact ⟨nested, small, answered, never (Nat.le_of_eq nested), bounded small (.inl ⟨_, answered⟩)⟩

end Machine

end FrameMachine
