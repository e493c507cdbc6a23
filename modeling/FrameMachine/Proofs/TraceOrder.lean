import FrameMachine.Proofs.Execution

/-! The order of events. An instruction is reported once it completed, so what it holds is reported
before it: a complete run reports the instruction tree in postorder. A run that stops reports the
part of that list in front of the instruction where it stopped. -/

namespace FrameMachine

namespace Instruction

mutual

/-- The events of a tree whose root is instruction number `pc` of a frame at `depth`: those of the
children, one level deeper, and then its own. -/
def postorder (depth : UInt64) (pc : Nat) : Instruction → List Event
  | .loop body => postorderAll (depth + 1) 0 body ++ [⟨depth, pc, .loop body⟩]
  | .setLocal index (some init) =>
    postorder (depth + 1) 0 init ++ [⟨depth, pc, .setLocal index (some init)⟩]
  | instruction => [⟨depth, pc, instruction⟩]

def postorderAll (depth : UInt64) (pc : Nat) : List Instruction → List Event
  | [] => []
  | first :: rest => postorder depth pc first ++ postorderAll depth (pc + 1) rest

end

mutual

theorem length_postorder (depth : UInt64) (pc : Nat) (instruction : Instruction) :
    (instruction.postorder depth pc).length = instruction.size := by
  match instruction with
  | .loop body =>
    simp only [postorder, size, List.length_append, List.length_singleton, length_postorderAll]
    omega
  | .setLocal index (some init) =>
    simp only [postorder, size, List.length_append, List.length_singleton, length_postorder]
    omega
  | .const _ | .nop | .trap | .getLocal _ | .setLocal _ none | .binary _ | .unknown => rfl
termination_by structural instruction

theorem length_postorderAll (depth : UInt64) (pc : Nat) (code : List Instruction) :
    (postorderAll depth pc code).length = sizeAll code := by
  match code with
  | [] => rfl
  | first :: rest =>
    simp only [postorderAll, sizeAll, List.length_append, length_postorder, length_postorderAll]
termination_by structural code

end

theorem postorder_child {instruction : Instruction} {body : List Instruction} (depth : UInt64)
    (pc : Nat) (child : instruction.child? = some body) :
    instruction.postorder depth pc =
      postorderAll (depth + 1) 0 body ++ [⟨depth, pc, instruction⟩] := by
  cases child_of_child? child with
  | body => simp only [postorder]
  | initializer => simp only [postorder, postorderAll, List.append_nil]

theorem postorder_leaf {instruction : Instruction} {memory : Memory} {values : List Value}
    (depth : UInt64) (pc : Nat) (completes : instruction.Completes memory values) :
    instruction.postorder depth pc = [⟨depth, pc, instruction⟩] := by
  cases completes <;> simp only [postorder, postorderAll, List.nil_append]

theorem postorder_ne_nil (depth : UInt64) (pc : Nat) (instruction : Instruction) :
    instruction.postorder depth pc ≠ [] := by
  have positive := instruction.size_pos
  rw [← instruction.length_postorder depth pc] at positive
  exact List.ne_nil_of_length_pos positive

theorem effect_trap {instruction : Instruction} {memory : Memory} {values : List Value}
    (traps : instruction.effect memory = (some .trap, values)) : instruction = .trap := by
  cases stops_of_effect traps
  rfl

end Instruction

open Instruction

/-- The part of the order that a stopped execution did not come to starts where it stopped. If it
trapped, that is a trap. -/
structure Unreported (all reported : List Event) (stop : Stop) (event : Event) (rest : List Event) :
    Prop where
  order : all = reported ++ event :: rest
  trap : stop = .trap → event.instruction = .trap

/-- An execution that stops at once, and not at a trap, leaves the whole order unreported. -/
theorem Unreported.of_untrapped {stop : Stop} (depth : UInt64) (pc : Nat) (first : Instruction)
    (rest : List Instruction) (untrapped : stop ≠ .trap) :
    ∃ event later, Unreported (postorderAll depth pc (first :: rest)) [] stop event later := by
  obtain ⟨event, later, same⟩ := List.exists_cons_of_ne_nil (first.postorder_ne_nil depth pc)
  refine ⟨event, later ++ postorderAll depth (pc + 1) rest, ?_, fun trap => absurd trap untrapped⟩
  simp only [postorderAll, same, List.cons_append, List.nil_append]

theorem Runs.complete_order {limit depth : UInt64} {pc : Nat} {code : List Instruction}
    {before after : Memory} {events : List Event}
    (run : Runs limit depth pc code before events none after) :
    events = postorderAll depth pc code := by
  generalize ends : (none : Option Stop) = stop at run
  induction run with
  | finished => simp only [postorderAll]
  | simple leaf completes _ ih =>
    simp only [postorderAll, postorder_leaf _ _ (completes_of_effect leaf completes), ih ends,
      List.singleton_append]
  | halted | tooDeep | childHalted | refused => cases ends
  | nested child _ _ _ _ inner ih =>
    simp only [postorderAll, postorder_child _ _ child, inner rfl, ih ends, List.append_assoc,
      List.singleton_append]

theorem Runs.stopped_order {limit depth : UInt64} {pc : Nat} {code : List Instruction}
    {before after : Memory} {events : List Event} {stop : Stop}
    (run : Runs limit depth pc code before events (some stop) after) :
    ∃ event rest, Unreported (postorderAll depth pc code) events stop event rest := by
  generalize ends : some stop = ending at run
  induction run with
  | finished => cases ends
  | simple leaf completes _ ih =>
    obtain ⟨event, later, unreported⟩ := ih ends
    refine ⟨event, later, ?_, unreported.trap⟩
    simp only [postorderAll, postorder_leaf _ _ (completes_of_effect leaf completes),
      unreported.order, List.cons_append, List.nil_append]
  | @halted depth pc instruction rest _ _ _ _ stops =>
    cases ends
    by_cases traps : stop = .trap
    · subst traps
      obtain rfl := effect_trap stops
      exact ⟨_, _, by simp only [postorderAll, postorder]; rfl, fun _ => rfl⟩
    · exact Unreported.of_untrapped depth pc instruction rest traps
  | @tooDeep depth pc instruction rest =>
    cases ends
    exact Unreported.of_untrapped depth pc instruction rest nofun
  | @childHalted depth pc instruction rest _ _ _ _ _ child _ _ ih =>
    -- The child stopped inside its own order, which the order of its parent begins with.
    obtain ⟨event, later, unreported⟩ := ih ends
    refine ⟨event, later ++ ⟨depth, pc, instruction⟩ :: postorderAll depth (pc + 1) rest, ?_,
      unreported.trap⟩
    simp only [postorderAll, postorder_child _ _ child, unreported.order, List.append_assoc,
      List.cons_append, List.nil_append]
  | @refused depth pc instruction rest _ _ _ _ _ child _ nested _ _ =>
    cases ends
    refine ⟨⟨depth, pc, instruction⟩, postorderAll depth (pc + 1) rest, ?_, nofun⟩
    simp only [postorderAll, postorder_child _ _ child, nested.complete_order, List.append_assoc,
      List.singleton_append]
  | nested child _ nested _ _ _ ih =>
    obtain ⟨event, later, unreported⟩ := ih ends
    refine ⟨event, later, ?_, unreported.trap⟩
    simp only [postorderAll, postorder_child _ _ child, nested.complete_order, unreported.order,
      List.append_assoc, List.cons_append, List.nil_append]

namespace Machine

variable {σ : Type}

/-- Whoever observes a run sees a part of the postorder from its start on. It is the whole, one event
for each instruction, exactly if the code ran to its end; a run that trapped stopped at a trap. -/
theorem run_reports_postorder (machine : Machine σ) (code : List Instruction) (locals : Locals)
    (seen : σ) :
    let events := machine.events 0 code [] locals
    let (result, after) := machine.run code locals seen
    after.seen = machine.observer.noticeAll events seen ∧
    events <+: postorderAll 0 0 code ∧
    (events = postorderAll 0 0 code ↔ (∃ v, result = .ok (.value v)) ∨ result = .ok .empty) ∧
    (events = postorderAll 0 0 code → events.length = sizeAll code) ∧
    (result = .ok .trapped →
      ∃ event rest, postorderAll 0 0 code = events ++ event :: rest ∧ event.instruction = .trap) := by
  obtain ⟨stop, after, run, ran⟩ := machine.run_runs code locals
  simp only [ran seen]
  have count : machine.events 0 code [] locals = postorderAll 0 0 code →
      (machine.events 0 code [] locals).length = sizeAll code := by
    intro whole
    rw [whole, length_postorderAll]
  cases stop with
  | none =>
    have whole := run.complete_order
    refine ⟨trivial, whole ▸ List.prefix_rfl, iff_of_true whole ?_, count, ?_⟩
    · simp only [Memory.result]
      split <;> simp
    · simp only [Memory.result]
      split <;> simp
  | some stop =>
    obtain ⟨event, rest, unreported⟩ := run.stopped_order
    refine ⟨trivial, ⟨event :: rest, unreported.order.symm⟩, iff_of_false ?_ ?_, count, ?_⟩
    · rw [unreported.order]
      simp
    · cases stop <;> simp [Memory.result]
    · intro trapped
      refine ⟨event, rest, unreported.order, unreported.trap ?_⟩
      cases stop with
      | trap => rfl
      | fault fault => simp [Memory.result] at trapped

end Machine

end FrameMachine
