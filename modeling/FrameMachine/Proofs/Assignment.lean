import FrameMachine.Proofs.FaultCause

/-! Assignments. An initializer runs in a frame of its own that starts with no values, so of all code only
a constant and a read can leave one there. An assignment completes exactly with such an initializer,
within the limit and to a slot that exists. In every other case it writes nothing itself, and what its
initializer wrote stays written. -/

namespace FrameMachine

namespace Instruction

variable {instruction : Instruction} {locals : Locals} {v : Value}

/-- The value that an instruction gives without being given any: a constant that fits, or what the slot
holds that it reads. -/
def gives? (locals : Locals) : Instruction → Option Value
  | .const (some n) =>
    if Int32.minValue.toInt ≤ n.toInt ∧ n.toInt ≤ Int32.maxValue.toInt then
      some (.i32 (Int32.ofInt n.toInt))
    else none
  | .getLocal (some index) => locals.slots[index.toNat]?.join
  | _ => none

theorem gives?_eq_some : instruction.gives? locals = some v ↔ instruction.Gives locals v := by
  constructor
  · intro given
    unfold gives? at given
    split at given
    next =>
      split at given
      next fits =>
        cases given
        exact .const (Value.create_i32 fits)
      next => cases given
    next => exact .read (Locals.get_of_slot (Option.join_eq_some_iff.mp given))
    next => cases given
  · intro gives
    cases gives with
    | const made =>
      obtain ⟨fits, rfl⟩ := Value.create_i32_eq_ok made
      exact if_pos fits
    | read got => exact Option.join_eq_some_iff.mpr (Locals.get_eq_ok got)

theorem Gives.not_leavesNothing (gives : instruction.Gives locals v) :
    instruction.leavesNothing = false := by
  cases gives <;> rfl

end Instruction

open Instruction

section

variable {limit depth index : UInt64} {pc : Nat} {init : Instruction} {locals : Locals}
  {values : List Value} {events : List Event}

theorem Runs.assigned {v : Value} (shallow : ¬ limit < depth + 1) (gives : init.Gives locals v)
    (inside : index.toNat < locals.size) :
    Runs limit depth pc [.setLocal (some index) (some init)] ⟨values, locals⟩
      [⟨depth + 1, 0, init⟩, ⟨depth, pc, .setLocal (some index) (some init)⟩] none
      ⟨values, ⟨locals.slots.set index.toNat (some v)⟩⟩ := by
  have written : finish ⟨[v], locals⟩ (.setLocal (some index) (some init)) = .ok _ := if_pos inside
  have nested : Runs limit (depth + 1) 0 [init] ⟨[], locals⟩ _ none ⟨[v], locals⟩ := gives.runs
  have run : Runs limit depth pc [.setLocal (some index) (some init)] ⟨values, locals⟩ _ _ _ :=
    .nested rfl shallow nested written .finished
  exact run

theorem Runs.assignment_ended {after : Memory}
    (run : Runs limit depth pc [.setLocal (some index) (some init)] ⟨values, locals⟩ events none after) :
    ¬ limit < depth + 1 ∧ index.toNat < locals.size ∧
      ∃ v, init.Gives locals v ∧ after = ⟨values, ⟨locals.slots.set index.toNat (some v)⟩⟩ := by
  cases run with
  | simple leaf => cases leaf
  | nested child shallow nested completes remaining =>
    cases child
    cases remaining
    cases nested.completed rfl completes with
    | assign gives inside => exact ⟨shallow, inside, _, gives, rfl⟩

/-- An assignment that stopped is too deep for its initializer, or leaves the locals as the initializer
left them. -/
theorem Runs.assignment_stopped {after : Memory} {stop : Stop}
    (run : Runs limit depth pc [.setLocal (some index) (some init)] ⟨values, locals⟩ events (some stop)
      after) :
    limit < depth + 1 ∧ after.locals = locals ∨
      ¬ limit < depth + 1 ∧ ∃ ending inner,
        Runs limit (depth + 1) 0 [init] ⟨[], locals⟩ events ending inner ∧
          after.locals = inner.locals := by
  cases run with
  | simple leaf => cases leaf
  | halted leaf => cases leaf
  | tooDeep _ deep => exact .inl ⟨deep, rfl⟩
  | childHalted child shallow nested | refused child shallow nested _ =>
    cases child
    exact .inr ⟨shallow, _, _, nested, rfl⟩
  | nested _ _ _ _ remaining => cases remaining

theorem Runs.assignment_empty {inner : Memory} (shallow : ¬ limit < depth + 1)
    (nested : Runs limit (depth + 1) 0 [init] ⟨[], locals⟩ events none inner)
    (blank : init.leavesNothing = true) :
    Runs limit depth pc [.setLocal (some index) (some init)] ⟨values, locals⟩ events
      (some (.fault (.emptyInitializer index))) ⟨values, inner.locals⟩ := by
  have refused : finish inner (.setLocal (some index) (some init)) =
      .error (.emptyInitializer index) := by
    cases left : inner.values with
    | nil => simp only [finish, left]
    | cons v rest =>
      obtain ⟨gives, _⟩ := nested.initializer left
      cases blank.symm.trans gives.not_leavesNothing
  have run : Runs limit depth pc [.setLocal (some index) (some init)] ⟨values, locals⟩ _ _ _ :=
    .refused rfl shallow nested refused
  exact run

end

namespace Machine

variable {σ : Type}

/-- Which assignments complete. With room for the initializer's frame, a slot to write and an initializer
that gives a value, the slot holds that value afterwards, every other slot is as it was, and the frame
ends with the values it had. Otherwise the locals are those that the initializer leaves when it is
executed alone, and one that runs to its end without a value is a fault that names the slot. -/
theorem execute_assignment (machine : Machine σ) {depth : UInt64} (within : depth ≤ machine.limit)
    (small : machine.limit.toNat + 1 < UInt64.size) (index : UInt64) (init : Instruction)
    (values : List Value) (locals : Locals) (seen : σ) :
    let (result, after) :=
      machine.execute depth [.setLocal (some index) (some init)] ⟨values, locals, seen⟩
    let (alone, inner) := machine.execute (depth + 1) [init] ⟨[], locals, seen⟩
    (Ended result ↔
      depth.toNat + 1 ≤ machine.limit.toNat ∧ index.toNat < locals.size ∧
        ∃ v, init.gives? locals = some v) ∧
    (Ended result →
      after.locals.slots[index.toNat]? = some (init.gives? locals) ∧
      (∀ position, position ≠ index.toNat →
        after.locals.slots[position]? = locals.slots[position]?) ∧
      match values with
      | [] => result = .ok .empty ∧ after.values = []
      | top :: rest => result = .ok (.value top) ∧ after.values = rest) ∧
    (¬ Ended result → after.locals = inner.locals) ∧
    (init.leavesNothing = true → Ended alone →
      result = .error (.emptyInitializer index) ∧ after.locals = inner.locals) := by
  have outer : ¬ machine.limit < depth := UInt64.not_lt.mpr within
  have room : Room machine.limit depth [.setLocal (some index) (some init)] := ⟨within, .inl small⟩
  have next : (depth + 1).toNat = depth.toNat + 1 := room.next_level rfl
  have entered : ¬ machine.limit < depth + 1 ↔ depth.toNat + 1 ≤ machine.limit.toNat := by
    rw [UInt64.not_lt, UInt64.le_iff_toNat_le, next]
  obtain ⟨stop, after, run, executed⟩ :=
    machine.execute_runs outer [.setLocal (some index) (some init)] values locals
  simp only [executed seen, Memory.ended_iff]
  refine ⟨⟨?_, ?_⟩, ?_, ?_, ?_⟩
  · rintro rfl
    obtain ⟨shallow, inside, v, gives, _⟩ := run.assignment_ended
    exact ⟨entered.mp shallow, inside, v, gives?_eq_some.mpr gives⟩
  · rintro ⟨bounded, inside, v, given⟩
    have gives := gives?_eq_some.mp given
    exact (run.unique (.assigned (entered.mpr bounded) gives inside)).2.1
  · rintro rfl
    obtain ⟨_, inside, v, gives, rfl⟩ := run.assignment_ended
    refine ⟨?_, ?_, ?_⟩
    · rw [gives?_eq_some.mpr gives]
      exact List.getElem?_set_self inside
    · intro position elsewhere
      exact List.getElem?_set_ne elsewhere.symm
    · cases values with
      | nil => exact ⟨rfl, rfl⟩
      | cons top rest => exact ⟨rfl, rfl⟩
  · intro halted
    cases stop with
    | none => exact (halted rfl).elim
    | some stop =>
      rcases run.assignment_stopped with ⟨deep, unchanged⟩ | ⟨shallow, _, inner, nested, same⟩
      · simp only [machine.execute_tooDeep deep, unchanged]
      · simp only [machine.execute_of_runs shallow nested seen, same]
  · intro blank ended
    by_cases deep : machine.limit < depth + 1
    · rw [machine.execute_tooDeep deep] at ended
      obtain ⟨_, answered, _⟩ := ended
      cases answered
    · obtain ⟨ending, inner, nested, ran⟩ := machine.execute_runs deep [init] [] locals
      rw [ran seen] at ended ⊢
      obtain rfl := Memory.ended_iff.mp ended
      obtain ⟨_, rfl, rfl⟩ := run.unique (Runs.assignment_empty deep nested blank)
      exact ⟨rfl, rfl⟩

/-- One assignment copies a slot. With that assignment as its initializer another one is a fault, and
the slot is written all the same. -/
theorem execute_assignment_copy_and_nested :
    let machine : Machine Unit := ⟨5, .silent⟩
    let locals : Locals := ⟨[some (.i64 3), none]⟩
    let copy : Instruction := .setLocal (some 1) (some (.getLocal (some 0)))
    let (result, after) := machine.execute 3 [copy] ⟨[.i32 9], locals, ()⟩
    let (fault, left) := machine.execute 3 [.setLocal (some 0) (some copy)] ⟨[.i32 9], locals, ()⟩
    3 ≤ machine.limit ∧ machine.limit.toNat + 1 < UInt64.size ∧
      Ended result ∧ after.locals.slots[1]? = some (some (.i64 3)) ∧
      after.locals.slots[0]? = locals.slots[0]? ∧ result = .ok (.value (.i32 9)) ∧ after.values = [] ∧
      fault = .error (.emptyInitializer 0) ∧ left.locals = ⟨[some (.i64 3), some (.i64 3)]⟩ := by
  intro machine locals copy
  have within : 3 ≤ machine.limit := by decide
  have small : machine.limit.toNat + 1 < UInt64.size := by decide
  obtain ⟨ends, written, _, _⟩ :=
    machine.execute_assignment within small 1 (.getLocal (some 0)) [.i32 9] locals ()
  obtain ⟨_, _, _, refused⟩ := machine.execute_assignment within small 0 copy [.i32 9] locals ()
  have ended := ends.mpr ⟨by decide, by decide, _, rfl⟩
  obtain ⟨slot, others, answer, left⟩ := written ended
  obtain ⟨fault, kept⟩ := refused rfl ⟨_, rfl, nofun⟩
  exact ⟨within, small, ended, slot, others 0 (by decide), answer, left, fault, kept⟩

end Machine

end FrameMachine
