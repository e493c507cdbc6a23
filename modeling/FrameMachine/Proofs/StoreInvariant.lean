import FrameMachine.Proofs.Replay

/-! What slots and value stacks can come to hold. The number of slots never changes, and a slot that
has a value keeps one. A slot is only ever given a constant of the code or what some slot holds, so a
property of slots that constants have is kept by every execution. Operators keep the type of their
operands. -/

namespace FrameMachine

namespace Instruction

mutual

/-- The instructions of a tree, its root included, whether or not they can ever run. -/
def parts : Instruction → List Instruction
  | .loop body => .loop body :: partsAll body
  | .setLocal index (some init) => .setLocal index (some init) :: parts init
  | instruction => [instruction]

def partsAll : List Instruction → List Instruction
  | [] => []
  | first :: rest => parts first ++ partsAll rest

end

variable {part instruction : Instruction} {rest body : List Instruction}

theorem mem_parts_self (instruction : Instruction) : instruction ∈ instruction.parts := by
  cases instruction with
  | setLocal index init => cases init <;> simp [parts]
  | const | nop | loop | trap | getLocal | binary | unknown => simp [parts]

theorem mem_partsAll_head : instruction ∈ partsAll (instruction :: rest) := by
  simp [partsAll, mem_parts_self]

theorem mem_partsAll_tail (member : part ∈ partsAll rest) :
    part ∈ partsAll (instruction :: rest) := by
  simp [partsAll, member]

theorem parts_child (child : instruction.child? = some body) :
    instruction.parts = instruction :: partsAll body := by
  cases child_of_child? child with
  | body => simp only [parts]
  | initializer => simp only [parts, partsAll, List.append_nil]

theorem mem_partsAll_child (child : instruction.child? = some body) (member : part ∈ partsAll body) :
    part ∈ partsAll (instruction :: rest) := by
  simp [partsAll, parts_child child, member]

end Instruction

open Instruction

theorem Locals.size_replay (locals : Locals) (event : Event) :
    (locals.replay event).size = locals.size := by
  unfold replay size
  split <;> simp

theorem Locals.size_replayAll (locals : Locals) (events : List Event) :
    (locals.replayAll events).size = locals.size := by
  induction events generalizing locals with
  | nil => rfl
  | cons event events ih => rw [replayAll_cons, ih, size_replay]

theorem Runs.size {limit depth : UInt64} {pc : Nat} {code : List Instruction}
    {before after : Memory} {events : List Event} {stop : Option Stop}
    (run : Runs limit depth pc code before events stop after) :
    after.locals.size = before.locals.size := by
  rw [run.replays, Locals.size_replayAll]

theorem Runs.completed_size {limit depth : UInt64} {instruction : Instruction}
    {body : List Instruction} {before locals : Locals} {inner : Memory} {events : List Event}
    (nested : Runs limit (depth + 1) 0 body ⟨[], before⟩ events none inner)
    (child : instruction.child? = some body) (completes : instruction.finish inner = .ok locals) :
    locals.size = before.size := by
  have written := (nested.completed child completes).replay 0
  rw [← written, Locals.size_replay, nested.size]

/-- A property of slots holds of whatever an assignment can write. -/
def Instruction.ConstantsSatisfy (property : Option Value → Prop) (code : List Instruction) : Prop :=
  ∀ n v, .const (some n) ∈ partsAll code → Value.create .i32 n = .ok v → property (some v)

namespace Instruction.ConstantsSatisfy

variable {property : Option Value → Prop} {instruction : Instruction} {rest body : List Instruction}

theorem tail (constants : ConstantsSatisfy property (instruction :: rest)) :
    ConstantsSatisfy property rest :=
  fun n v member => constants n v (mem_partsAll_tail member)

theorem child (constants : ConstantsSatisfy property (instruction :: rest))
    (child : instruction.child? = some body) : ConstantsSatisfy property body :=
  fun n v member => constants n v (mem_partsAll_child child member)

end Instruction.ConstantsSatisfy

theorem Completed.slots {depth : UInt64} {instruction : Instruction} {body : List Instruction}
    {before inner locals : Locals} {events : List Event} {property : Option Value → Prop}
    (completed : Completed depth instruction before events inner locals)
    (child : instruction.child? = some body) (constants : ConstantsSatisfy property body)
    (holds : ∀ slot ∈ inner.slots, property slot) : ∀ slot ∈ locals.slots, property slot := by
  cases completed with
  | loop => exact holds
  | @assign index init v _ gives _ =>
    cases child
    intro slot member
    rcases List.mem_or_eq_of_mem_set member with kept | rfl
    · exact holds slot kept
    · cases gives with
      | const made => exact constants _ _ mem_partsAll_head made
      | read got => exact holds _ (List.mem_of_getElem? (Locals.get_eq_ok got))

theorem Runs.slots {limit depth : UInt64} {pc : Nat} {code : List Instruction}
    {before after : Memory} {events : List Event} {stop : Option Stop}
    {property : Option Value → Prop} (run : Runs limit depth pc code before events stop after)
    (constants : ConstantsSatisfy property code)
    (holds : ∀ slot ∈ before.locals.slots, property slot) :
    ∀ slot ∈ after.locals.slots, property slot := by
  induction run with
  | finished | halted | tooDeep => exact holds
  | simple _ _ _ ih => exact ih constants.tail holds
  | childHalted child _ _ ih | refused child _ _ _ ih => exact ih (constants.child child) holds
  | nested child _ nested completes _ inner ih =>
    have within := constants.child child
    apply ih constants.tail
    exact (nested.completed child completes).slots child within (inner within holds)

theorem Runs.completed_slots {limit depth : UInt64} {instruction : Instruction}
    {body : List Instruction} {before locals : Locals} {inner : Memory} {events : List Event}
    {property : Option Value → Prop}
    (nested : Runs limit (depth + 1) 0 body ⟨[], before⟩ events none inner)
    (child : instruction.child? = some body) (completes : instruction.finish inner = .ok locals)
    (constants : ConstantsSatisfy property body) (holds : ∀ slot ∈ before.slots, property slot) :
    ∀ slot ∈ locals.slots, property slot :=
  (nested.completed child completes).slots child constants (nested.slots constants holds)

theorem Completed.unpopulated {depth : UInt64} {instruction : Instruction}
    {before inner locals : Locals} {events : List Event} {position : Nat}
    (completed : Completed depth instruction before events inner locals)
    (empty : locals.slots[position]? = some none) : inner.slots[position]? = some none := by
  cases completed with
  | loop => exact empty
  | @assign index _ _ _ _ inside =>
    have elsewhere : index.toNat ≠ position := by
      rintro rfl
      rw [List.getElem?_set_self inside] at empty
      cases empty
    rwa [List.getElem?_set_ne elsewhere] at empty

/-- A slot without a value at the end never had one: nothing takes a value away. -/
theorem Runs.unpopulated {limit depth : UInt64} {pc : Nat} {code : List Instruction}
    {before after : Memory} {events : List Event} {stop : Option Stop} {position : Nat}
    (run : Runs limit depth pc code before events stop after)
    (empty : after.locals.slots[position]? = some none) :
    before.locals.slots[position]? = some none := by
  induction run with
  | finished | halted | tooDeep => exact empty
  | simple _ _ _ ih | childHalted _ _ _ ih | refused _ _ _ _ ih => exact ih empty
  | nested child _ nested completes _ inner ih =>
    have unwritten := (nested.completed child completes).unpopulated (ih empty)
    exact inner unwritten

/-- Operands of one type give a value of that type. -/
theorem Operator.apply_type (operator : Operator) {lhs rhs : Value} (same : lhs.type = rhs.type) :
    ∃ v, operator.apply lhs rhs = .ok v ∧ v.type = lhs.type := by
  cases lhs <;> cases rhs <;> first | exact ⟨_, rfl, rfl⟩ | cases same

end FrameMachine
