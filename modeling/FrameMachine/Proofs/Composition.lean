import FrameMachine.Proofs.Nesting

/-! Sequential composition. A frame over two pieces of code executes the first and, unless that stops,
the second from the memory that the first left. What a frame answers is popped off its values, so
taking up the second piece means putting the answer back; and the second piece is numbered on from the
first, which only the events of the frame itself show. -/

namespace FrameMachine

/-- The value stack from which an outcome was taken. -/
def Outcome.restore : Outcome → List Value → List Value
  | .value v, left => v :: left
  | _, left => left

def Event.renumber (depth : UInt64) (count : Nat) (event : Event) : Event :=
  if event.depth = depth then { event with pc := event.pc + count } else event

namespace Event

theorem renumber_own (depth : UInt64) (pc count : Nat) (instruction : Instruction) :
    renumber depth count ⟨depth, pc, instruction⟩ = ⟨depth, pc + count, instruction⟩ :=
  if_pos rfl

theorem map_renumber_elsewhere {depth : UInt64} {events : List Event} (count : Nat)
    (elsewhere : ∀ event ∈ events, event.depth ≠ depth) :
    events.map (renumber depth count) = events := by
  have unchanged : ∀ event ∈ events, renumber depth count event = event := by
    intro event member
    exact if_neg (elsewhere event member)
  rw [List.map_congr_left unchanged]
  exact List.map_id events

end Event

namespace Runs

variable {limit depth : UInt64} {pc : Nat} {code : List Instruction} {before after : Memory}
  {events : List Event}

/-- The events of nested frames keep their numbers, and where depths tell frames apart, those of the
frame itself can be told from them. -/
theorem renumber {stop : Option Stop} (run : Runs limit depth pc code before events stop after)
    (count : Nat) :
    ∃ renumbered, Runs limit depth (pc + count) code before renumbered stop after ∧
      (DepthFits limit code → renumbered = events.map (Event.renumber depth count)) := by
  induction run with
  | finished => exact ⟨[], .finished, fun _ => rfl⟩
  | @simple depth pc instruction rest _ _ _ _ _ leaf completes _ ih =>
    obtain ⟨later, remaining, same⟩ := ih
    rw [Nat.add_right_comm] at remaining
    refine ⟨_, .simple leaf completes remaining, ?_⟩
    intro fits
    rw [List.map_cons, Event.renumber_own, same fits.tail]
  | halted leaf stops => exact ⟨[], .halted leaf stops, fun _ => rfl⟩
  | tooDeep child deep => exact ⟨[], .tooDeep child deep, fun _ => rfl⟩
  | childHalted child shallow nested _ =>
    refine ⟨_, .childHalted child shallow nested, ?_⟩
    intro fits
    exact (Event.map_renumber_elsewhere count (nested.child_depth_ne fits child shallow)).symm
  | refused child shallow nested fails _ =>
    refine ⟨_, .refused child shallow nested fails, ?_⟩
    intro fits
    exact (Event.map_renumber_elsewhere count (nested.child_depth_ne fits child shallow)).symm
  | nested child shallow nested completes _ _ ih =>
    obtain ⟨later, remaining, same⟩ := ih
    rw [Nat.add_right_comm] at remaining
    refine ⟨_, .nested child shallow nested completes remaining, ?_⟩
    intro fits
    have elsewhere := nested.child_depth_ne fits child shallow
    rw [List.map_append, List.map_cons, Event.renumber_own, same fits.tail,
      Event.map_renumber_elsewhere count elsewhere]

theorem append_of_stopped {stop : Stop}
    (run : Runs limit depth pc code before events (some stop) after) (more : List Instruction) :
    Runs limit depth pc (code ++ more) before events (some stop) after := by
  generalize ends : some stop = ending at run ⊢
  induction run with
  | finished => cases ends
  | simple leaf completes _ ih => exact .simple leaf completes (ih ends)
  | halted leaf stops => exact .halted leaf stops
  | tooDeep child deep => exact .tooDeep child deep
  | childHalted child shallow nested _ => exact .childHalted child shallow nested
  | refused child shallow nested fails _ => exact .refused child shallow nested fails
  | nested child shallow nested completes _ _ ih =>
    exact .nested child shallow nested completes (ih ends)

theorem append {more : List Instruction} {later : List Event} {stop : Option Stop} {last : Memory}
    (run : Runs limit depth pc code before events none after)
    (second : Runs limit depth (pc + code.length) more after later stop last) :
    Runs limit depth pc (code ++ more) before (events ++ later) stop last := by
  generalize ends : (none : Option Stop) = ending at run
  induction run with
  | finished => exact second
  | simple leaf completes _ ih =>
    rw [List.length_cons, ← Nat.add_assoc, Nat.add_right_comm] at second
    exact .simple leaf completes (ih second ends)
  | halted | tooDeep | childHalted | refused => cases ends
  | nested child shallow nested completes _ _ ih =>
    rw [List.length_cons, ← Nat.add_assoc, Nat.add_right_comm] at second
    rw [List.append_assoc, List.cons_append]
    exact .nested child shallow nested completes (ih second ends)

end Runs

/-- An execution that ran to its end answers what was on top of its values, so the answer goes back on
top of what it kept. -/
theorem Memory.restore_result {memory : Memory} {outcome : Outcome}
    (answered : (memory.result none).1 = .ok outcome) :
    outcome.restore (memory.result none).2 = memory.values ∧
      (outcome = .empty → (memory.result none).2 = []) := by
  obtain ⟨values, locals⟩ := memory
  cases values with
  | nil => cases answered; exact ⟨rfl, fun _ => rfl⟩
  | cons v rest => cases answered; exact ⟨rfl, nofun⟩

namespace Machine

variable {σ : Type}

/-- Two pieces of code in one frame. If the first stops, at a trap or a fault, the second is as good as
not there. Otherwise the frame goes on with the second from the locals that the first left and from the
values that it left with its answer on top again, and reports the events of the second behind those of
the first, with the frame's own numbered on. -/
theorem execute_append (machine : Machine σ) (depth : UInt64) (first second : List Instruction)
    (values : List Value) (locals : Locals) (seen : σ) :
    let (result, middle) := machine.execute depth first ⟨values, locals, seen⟩
    let whole := machine.execute depth (first ++ second) ⟨values, locals, seen⟩
    let events := machine.events depth first values locals
    let wholeEvents := machine.events depth (first ++ second) values locals
    whole.2.seen = machine.observer.noticeAll wholeEvents seen ∧
    ((∃ fault, result = .error fault) ∨ result = .ok .trapped →
      whole = (result, middle) ∧ wholeEvents = events) ∧
    ∀ outcome, result = .ok outcome → outcome ≠ .trapped →
      let resumed := outcome.restore middle.values
      let rest := machine.execute depth second ⟨resumed, middle.locals, middle.seen⟩
      (outcome = .empty → resumed = []) ∧
      whole.1 = rest.1 ∧ whole.2.values = rest.2.values ∧ whole.2.locals = rest.2.locals ∧
      (DepthFits machine.limit second →
        wholeEvents = events ++
          (machine.events depth second resumed middle.locals).map
            (Event.renumber depth first.length)) := by
  by_cases deep : machine.limit < depth
  · simp only [machine.execute_tooDeep deep, machine.events_tooDeep deep, Observer.noticeAll_nil, true_and]
    refine ⟨fun _ => trivial, ?_⟩
    intro outcome answered
    cases answered
  · obtain ⟨stop, after, run, executed⟩ := machine.execute_runs deep first values locals
    obtain ⟨_, _, _, told⟩ := machine.execute_runs deep (first ++ second) values locals
    simp only [executed seen]
    refine ⟨by rw [told seen], ?_, ?_⟩
    · intro stopped
      cases stop with
      | none =>
        obtain ⟨outcome, answered, untrapped⟩ := Memory.ended_iff.mpr rfl
        rcases stopped with ⟨fault, failed⟩ | trapped
        · cases answered.symm.trans failed
        · cases answered.symm.trans trapped
          exact absurd rfl untrapped
      | some stop =>
        have whole := run.append_of_stopped second
        exact ⟨machine.execute_of_runs deep whole seen, machine.events_of_runs deep whole⟩
    · intro outcome answered untrapped
      obtain rfl : stop = none := Memory.ended_iff.mp ⟨outcome, answered, untrapped⟩
      obtain ⟨restored, emptied⟩ := Memory.restore_result answered
      obtain ⟨ending, last, remaining, resumed⟩ :=
        machine.execute_runs deep second after.values after.locals
      obtain ⟨renumbered, numbered, same⟩ := remaining.renumber first.length
      have whole := run.append numbered
      rw [restored, resumed, machine.execute_of_runs deep whole seen]
      refine ⟨?_, rfl, rfl, rfl, ?_⟩
      · rintro rfl
        rw [← restored]
        exact emptied rfl
      · intro fits
        rw [machine.events_of_runs deep whole, same fits]

/-- The second piece subtracts across the seam: its left operand is the first piece's answer. -/
theorem execute_append_across_seam :
    let machine : Machine Unit := ⟨4, .silent⟩
    let first : List Instruction := [.nop, .const (some 9)]
    let second : List Instruction := [.loop [.nop], .getLocal (some 0), .binary .sub]
    let locals : Locals := ⟨[some (.i32 2)]⟩
    DepthFits machine.limit second ∧
    (machine.execute 3 first ⟨[], locals, ()⟩).1 = .ok (.value (.i32 9)) ∧
    (machine.execute 3 (first ++ second) ⟨[], locals, ()⟩).1 = .ok (.value (.i32 7)) ∧
    machine.events 3 (first ++ second) [] locals =
      machine.events 3 first [] locals ++
        (machine.events 3 second [.i32 9] locals).map (Event.renumber 3 2) := by
  intro machine first second locals
  have fits : DepthFits machine.limit second := by decide
  have answered : (machine.execute 3 first ⟨[], locals, ()⟩).1 = .ok (.value (.i32 9)) := rfl
  obtain ⟨_, same, _, _, events⟩ :=
    (machine.execute_append 3 first second [] locals ()).2.2 _ answered nofun
  exact ⟨fits, answered, same.trans rfl, events fits⟩

end Machine

end FrameMachine
