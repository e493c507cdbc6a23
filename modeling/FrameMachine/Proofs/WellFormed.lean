import FrameMachine.Proofs.StoreInvariant

/-! Which code runs without a fault. Over slots that all hold 32-bit integers this can be read off the
code: operands are there and in range, initializers give a value, nesting stays within the limit, and
no operator finds fewer than two values. Code without a trap runs to an end exactly if it is so. -/

namespace FrameMachine

namespace Instruction

/-- The height of the value stack after an instruction, if it can run at the height before. -/
def height (instruction : Instruction) (before : Nat) : Option Nat :=
  match instruction with
  | .const _ | .getLocal _ => some (before + 1)
  | .binary _ => if 2 ≤ before then some (before - 1) else none
  | _ => some before

def heightAll : List Instruction → Nat → Option Nat
  | [], before => some before
  | first :: rest, before => (first.height before).bind (heightAll rest)

def initializes : Instruction → Bool
  | .const _ | .getLocal _ => true
  | _ => false

mutual

/-- Whether an instruction of a frame at `depth` is well-formed for a number of slots and a limit. -/
def wellFormed (slots limit depth : Nat) : Instruction → Bool
  | .const (some n) =>
    decide (Int32.minValue.toInt ≤ n.toInt ∧ n.toInt ≤ Int32.maxValue.toInt)
  | .getLocal (some index) => decide (index.toNat < slots)
  | .setLocal (some index) (some init) =>
    decide (index.toNat < slots) && decide (depth + 1 ≤ limit) && init.initializes
      && wellFormed slots limit (depth + 1) init
  | .loop [] => true
  | .loop (first :: rest) =>
    decide (depth + 1 ≤ limit) && wellFormedAll slots limit (depth + 1) (first :: rest)
      && (heightAll (first :: rest) 0).isSome
  | .nop | .trap | .binary _ => true
  | .const none | .getLocal none | .setLocal _ _ | .unknown => false

def wellFormedAll (slots limit depth : Nat) : List Instruction → Bool
  | [] => true
  | first :: rest => wellFormed slots limit depth first && wellFormedAll slots limit depth rest

end

/-- Well-formed code of an outermost frame: every instruction in the tree is, and every operator finds
its operands. -/
def WellFormed (slots limit : Nat) (code : List Instruction) : Prop :=
  wellFormedAll slots limit 0 code = true ∧ (heightAll code 0).isSome = true

instance (slots limit : Nat) (code : List Instruction) : Decidable (WellFormed slots limit code) :=
  inferInstanceAs (Decidable (_ ∧ _))

variable {slots limit depth : Nat} {instruction : Instruction} {body : List Instruction}

theorem wellFormedAll_cons {first : Instruction} {rest : List Instruction} :
    wellFormedAll slots limit depth (first :: rest) = true ↔
      first.wellFormed slots limit depth = true ∧ wellFormedAll slots limit depth rest = true := by
  simp only [wellFormedAll, Bool.and_eq_true]

theorem wellFormed_child (child : instruction.child? = some body)
    (valid : instruction.wellFormed slots limit depth = true) :
    depth + 1 ≤ limit ∧ wellFormedAll slots limit (depth + 1) body = true ∧
      ∃ final, heightAll body 0 = some final := by
  cases child_of_child? child with
  | body =>
    simp only [wellFormed, Bool.and_eq_true, decide_eq_true_eq] at valid
    obtain ⟨⟨bounded, inner⟩, heights⟩ := valid
    exact ⟨bounded, inner, Option.isSome_iff_exists.mp heights⟩
  | @initializer index init =>
    simp only [wellFormed, Bool.and_eq_true, decide_eq_true_eq] at valid
    obtain ⟨⟨⟨_, bounded⟩, form⟩, inner⟩ := valid
    refine ⟨bounded, wellFormedAll_cons.mpr ⟨inner, by simp only [wellFormedAll]⟩, ?_⟩
    cases init <;> simp_all [initializes, heightAll, height]

theorem height_child (child : instruction.child? = some body) (before : Nat) :
    instruction.height before = some before := by
  cases child_of_child? child <;> rfl

/-- A well-formed instruction can use what its child left, if that is as high as the child's code
says. -/
theorem finish_wellFormed {inner : Memory} (child : instruction.child? = some body)
    (valid : instruction.wellFormed slots limit depth = true) (size : inner.locals.size = slots)
    (left : heightAll body 0 = some inner.values.length) :
    ∃ locals, instruction.finish inner = .ok locals := by
  cases child_of_child? child with
  | body => exact ⟨_, rfl⟩
  | @initializer index init =>
    simp only [wellFormed, Bool.and_eq_true, decide_eq_true_eq] at valid
    obtain ⟨⟨⟨inside, _⟩, form⟩, _⟩ := valid
    have single : inner.values.length = 1 := by
      cases init <;> simp_all [initializes, heightAll, height]
    obtain ⟨v, rest⟩ := List.length_eq_one_iff.mp single
    exact ⟨_, by simp only [finish, rest, Locals.set, size, inside, if_true]; rfl⟩

end Instruction

/-- The child of a well-formed instruction lies within the limit, so its depth word is exact. -/
theorem Instruction.wellFormed_child_word {limit depth : UInt64} {slots : Nat}
    {instruction : Instruction} {body : List Instruction} (child : instruction.child? = some body)
    (valid : instruction.wellFormed slots limit.toNat depth.toNat = true) :
    ¬ limit < depth + 1 ∧ wellFormedAll slots limit.toNat (depth + 1).toNat body = true ∧
      ∃ final, heightAll body 0 = some final := by
  obtain ⟨bounded, inner, heights⟩ := wellFormed_child child valid
  have next : (depth + 1).toNat = depth.toNat + 1 := by
    have word := toNat_succ depth
    have small := limit.toNat_lt
    simp only [UInt64.size] at word
    omega
  rw [UInt64.lt_iff_toNat_lt, next]
  exact ⟨Nat.not_lt.mpr bounded, inner, heights⟩

structure Memory.Integers (slots : Nat) (memory : Memory) : Prop where
  size : memory.locals.size = slots
  slots : ∀ slot ∈ memory.locals.slots, ∃ n, slot = some (.i32 n)
  values : ∀ v ∈ memory.values, v.type = .i32

open Instruction

private theorem pushed_integer {values : List Value} {made : Except Fault Value} {v : Value}
    (given : made = .ok v) (integer : v.type = .i32) (integers : ∀ v ∈ values, v.type = .i32) :
    ∃ left, pushed values made = (none, left) ∧ left.length = values.length + 1 ∧
      ∀ v ∈ left, v.type = .i32 :=
  ⟨v :: values, by rw [given]; rfl, rfl, List.forall_mem_cons.mpr ⟨integer, integers⟩⟩

/-- A well-formed instruction without a child is a trap, or it completes and leaves what its height
says. -/
theorem Instruction.effect_wellFormed {slots limit depth final : Nat} {instruction : Instruction}
    {memory : Memory} (leaf : instruction.child? = none)
    (valid : instruction.wellFormed slots limit depth = true) (integers : memory.Integers slots)
    (heights : instruction.height memory.values.length = some final) :
    instruction = .trap ∨ ∃ values, instruction.effect memory = (none, values) ∧
      values.length = final ∧ ∀ v ∈ values, v.type = .i32 := by
  have unchanged : ∃ values, (none, memory.values) = ((none : Option Stop), values) ∧
      values.length = memory.values.length ∧ ∀ v ∈ values, v.type = .i32 :=
    ⟨_, rfl, rfl, integers.values⟩
  cases instruction with
  | const value =>
    cases value with
    | none => cases valid
    | some n =>
      cases heights
      simp only [wellFormed, decide_eq_true_eq] at valid
      exact .inr (pushed_integer (Value.create_i32 valid) rfl integers.values)
  | getLocal index =>
    cases index with
    | none => cases valid
    | some index =>
      cases heights
      simp only [wellFormed, decide_eq_true_eq] at valid
      rw [← integers.size] at valid
      obtain ⟨n, holds⟩ := integers.slots _ (List.getElem_mem valid)
      have slot := List.getElem?_eq_getElem valid
      rw [holds] at slot
      exact .inr (pushed_integer (Locals.get_of_slot slot) rfl integers.values)
  | loop code =>
    cases code with
    | nil => cases heights; exact .inr unchanged
    | cons first rest => cases leaf
  | setLocal index init => cases index <;> cases init <;> first | cases valid | cases leaf
  | binary operator =>
    obtain ⟨values, locals⟩ := memory
    cases values with
    | nil => cases heights
    | cons rhs below =>
      cases below with
      | nil => cases heights
      | cons lhs rest =>
        cases heights
        have typed := integers.values
        simp only [List.forall_mem_cons] at typed
        obtain ⟨v, applied, integer⟩ := operator.apply_type (typed.2.1.trans typed.1.symm)
        exact .inr (pushed_integer applied (integer.trans typed.2.1) typed.2.2)
  | nop => cases heights; exact .inr unchanged
  | trap => exact .inl rfl
  | unknown => cases valid

theorem Instruction.constants_integer (code : List Instruction) :
    ConstantsSatisfy (fun slot => ∃ n, slot = some (.i32 n)) code := by
  intro n v _ made
  obtain ⟨_, rfl⟩ := Value.create_i32_eq_ok made
  exact ⟨_, rfl⟩

theorem Memory.Integers.completed {slots : Nat} {limit depth : UInt64} {instruction : Instruction}
    {body : List Instruction} {before inner : Memory} {locals : Locals} {events : List Event}
    (integers : before.Integers slots) (child : instruction.child? = some body)
    (nested : Runs limit (depth + 1) 0 body ⟨[], before.locals⟩ events none inner)
    (completes : instruction.finish inner = .ok locals) :
    (⟨before.values, locals⟩ : Memory).Integers slots := by
  have slots := nested.completed_slots child completes (constants_integer body) integers.slots
  exact ⟨(nested.completed_size child completes).trans integers.size, slots, integers.values⟩

/-- Well-formed code meets no fault, and at its end the stack is as high as the code says. -/
theorem Runs.sound {limit depth : UInt64} {pc slots final : Nat} {code : List Instruction}
    {before after : Memory} {events : List Event} {stop : Option Stop}
    (run : Runs limit depth pc code before events stop after) (integers : before.Integers slots)
    (valid : wellFormedAll slots limit.toNat depth.toNat code = true)
    (heights : heightAll code before.values.length = some final) :
    (stop = none ∧ after.values.length = final) ∨ stop = some .trap := by
  induction run generalizing final with
  | finished =>
    cases heights
    exact .inl ⟨rfl, rfl⟩
  | simple leaf completes _ ih =>
    obtain ⟨validFirst, validRest⟩ := wellFormedAll_cons.mp valid
    obtain ⟨middle, first, rest⟩ := Option.bind_eq_some_iff.mp heights
    rcases effect_wellFormed leaf validFirst integers first with rfl | ⟨values, effect, height, typed⟩
    · cases completes
    · cases effect.symm.trans completes
      exact ih ⟨integers.size, integers.slots, typed⟩ validRest (height ▸ rest)
  | halted leaf stops =>
    obtain ⟨validFirst, _⟩ := wellFormedAll_cons.mp valid
    obtain ⟨middle, first, _⟩ := Option.bind_eq_some_iff.mp heights
    rcases effect_wellFormed leaf validFirst integers first with rfl | ⟨values, effect, _⟩
    · cases stops
      exact .inr rfl
    · cases effect.symm.trans stops
  | tooDeep child deep =>
    obtain ⟨validFirst, _⟩ := wellFormedAll_cons.mp valid
    exact absurd deep (wellFormed_child_word child validFirst).1
  | childHalted child _ _ ih =>
    obtain ⟨validFirst, _⟩ := wellFormedAll_cons.mp valid
    obtain ⟨_, inner, final, height⟩ := wellFormed_child_word child validFirst
    rcases ih ⟨integers.size, integers.slots, by simp⟩ inner height with ⟨ended, _⟩ | trapped
    · cases ended
    · exact .inr trapped
  | refused child _ nested fails ih =>
    -- The child ran to its end with the height its code says, so there is a value to assign.
    obtain ⟨validFirst, _⟩ := wellFormedAll_cons.mp valid
    obtain ⟨_, inner, final, height⟩ := wellFormed_child_word child validFirst
    rcases ih ⟨integers.size, integers.slots, by simp⟩ inner height with ⟨_, rfl⟩ | trapped
    · have size := nested.size.trans integers.size
      obtain ⟨locals, completes⟩ := finish_wellFormed child validFirst size height
      cases completes.symm.trans fails
    · cases trapped
  | nested child _ nested completes _ _ ih =>
    obtain ⟨_, validRest⟩ := wellFormedAll_cons.mp valid
    obtain ⟨middle, first, rest⟩ := Option.bind_eq_some_iff.mp heights
    rw [height_child child] at first
    cases first
    exact ih (integers.completed child nested completes) validRest rest

theorem Instruction.Completes.wellFormed {instruction : Instruction} {memory : Memory}
    {values : List Value} (completes : instruction.Completes memory values) (limit depth : Nat) :
    instruction.wellFormed memory.locals.size limit depth = true ∧
      instruction.height memory.values.length = some values.length := by
  cases completes with
  | nop | emptyLoop => exact ⟨by simp only [Instruction.wellFormed], rfl⟩
  | const made =>
    simp only [Instruction.wellFormed, decide_eq_true_eq]
    exact ⟨(Value.create_i32_eq_ok made).1, rfl⟩
  | read got =>
    simp only [Instruction.wellFormed, decide_eq_true_eq]
    exact ⟨(List.getElem?_eq_some_iff.mp (Locals.get_eq_ok got)).1, rfl⟩
  | operate found => exact ⟨by simp only [Instruction.wellFormed], by simp [height, found]⟩

theorem Completed.wellFormed {depth : UInt64} {instruction : Instruction} {body : List Instruction}
    {before inner locals : Locals} {events : List Event} {limit level final : Nat}
    (completed : Completed depth instruction before events inner locals)
    (child : instruction.child? = some body) (bounded : level + 1 ≤ limit)
    (valid : wellFormedAll before.size limit (level + 1) body = true)
    (heights : heightAll body 0 = some final) :
    instruction.wellFormed before.size limit level = true := by
  cases child_of_child? child with
  | body =>
    simp only [Instruction.wellFormed, bounded, valid, heights, decide_true, Option.isSome_some,
      Bool.and_self]
  | initializer =>
    obtain ⟨validInit, _⟩ := wellFormedAll_cons.mp valid
    cases completed with
    | assign gives inside =>
      simp only [Instruction.wellFormed, bounded, validInit, inside, decide_true, Bool.and_true,
        Bool.true_and]
      cases gives <;> rfl

/-- Code that ran to its end was well-formed. -/
theorem Runs.wellFormed {limit depth : UInt64} {pc : Nat} {code : List Instruction}
    {before after : Memory} {events : List Event}
    (run : Runs limit depth pc code before events none after) (room : Room limit depth code) :
    wellFormedAll before.locals.size limit.toNat depth.toNat code = true ∧
      heightAll code before.values.length = some after.values.length := by
  generalize ends : (none : Option Stop) = stop at run
  induction run with
  | finished => exact ⟨rfl, rfl⟩
  | @simple depth _ _ _ _ _ _ _ _ leaf completes _ ih =>
    obtain ⟨rest, heights⟩ := ih room.tail ends
    obtain ⟨first, height⟩ :=
      (completes_of_effect leaf completes).wellFormed limit.toNat depth.toNat
    refine ⟨wellFormedAll_cons.mpr ⟨first, rest⟩, ?_⟩
    rw [heightAll, height, Option.bind_some, heights]
  | halted | tooDeep | childHalted | refused => cases ends
  | nested child shallow nested completes _ inner ih =>
    obtain ⟨body, bodyHeights⟩ := inner (room.child child shallow) rfl
    obtain ⟨rest, heights⟩ := ih room.tail ends
    have bounded := UInt64.le_iff_toNat_le.mp (UInt64.not_lt.mp shallow)
    rw [room.next_level child] at body bounded
    have first := (nested.completed child completes).wellFormed child bounded body bodyHeights
    have size := nested.completed_size child completes
    simp only [size] at rest
    refine ⟨wellFormedAll_cons.mpr ⟨first, rest⟩, ?_⟩
    rw [heightAll, height_child child, Option.bind_some, heights]

theorem Instruction.Completes.trap_not_mem {instruction : Instruction} {memory : Memory}
    {values : List Value} (completes : instruction.Completes memory values) :
    .trap ∉ instruction.parts := by
  cases completes <;> simp [parts, partsAll]

theorem Runs.trap_mem {limit depth : UInt64} {pc : Nat} {code : List Instruction}
    {before after : Memory} {events : List Event}
    (run : Runs limit depth pc code before events (some .trap) after) : .trap ∈ partsAll code := by
  generalize ends : some Stop.trap = stop at run
  induction run with
  | finished | tooDeep | refused => cases ends
  | simple _ _ _ ih => exact mem_partsAll_tail (ih ends)
  | halted _ stops =>
    cases ends
    obtain rfl := effect_trap stops
    exact mem_partsAll_head
  | childHalted child _ _ ih => exact mem_partsAll_child child (ih ends)
  | nested _ _ _ _ _ _ ih => exact mem_partsAll_tail (ih ends)

/-- Code that ran to its end has no trap in it: nothing is skipped. -/
theorem Runs.trap_not_mem {limit depth : UInt64} {pc : Nat} {code : List Instruction}
    {before after : Memory} {events : List Event}
    (run : Runs limit depth pc code before events none after) : .trap ∉ partsAll code := by
  generalize ends : (none : Option Stop) = stop at run
  induction run with
  | finished => simp [partsAll]
  | simple leaf completes _ ih =>
    simp only [partsAll, List.mem_append, not_or]
    exact ⟨(completes_of_effect leaf completes).trap_not_mem, ih ends⟩
  | halted | tooDeep | childHalted | refused => cases ends
  | @nested _ _ instruction _ _ _ _ _ _ _ _ _ child _ _ _ _ inner ih =>
    have different : .trap ≠ instruction := by
      rintro rfl
      cases child
    simp only [partsAll, parts_child child, List.mem_append, List.mem_cons, not_or]
    exact ⟨⟨different, inner rfl⟩, ih ends⟩

namespace Machine

variable {σ : Type}

/-- Over slots that all hold 32-bit integers, code without a trap runs without a fault exactly if it is
well-formed. Well-formed code never meets a fault: with a trap anywhere in it, it traps, and otherwise
it answers a value exactly if it leaves the stack higher than it found it. -/
theorem run_ok_iff_wellFormed (machine : Machine σ) (code : List Instruction) (locals : Locals)
    (seen : σ) (integers : ∀ slot ∈ locals.slots, ∃ n, slot = some (.i32 n)) :
    let result := (machine.run code locals seen).1
    (DepthFits machine.limit code → .trap ∉ partsAll code →
      ((∃ outcome, result = .ok outcome) ↔ WellFormed locals.size machine.limit.toNat code)) ∧
    ∀ height, WellFormed locals.size machine.limit.toNat code → heightAll code 0 = some height →
      (.trap ∈ partsAll code → result = .ok .trapped) ∧
      (.trap ∉ partsAll code →
        ((∃ v, result = .ok (.value v)) ↔ 0 < height) ∧ (result = .ok .empty ↔ height = 0)) := by
  obtain ⟨stop, after, run, ran⟩ := machine.run_runs code locals
  simp only [ran seen]
  have start : (⟨[], locals⟩ : Memory).Integers locals.size := ⟨rfl, integers, by simp⟩
  refine ⟨fun fits untrapped => ⟨?_, ?_⟩, ?_⟩
  · rintro ⟨outcome, answered⟩
    cases stop with
    | none =>
      obtain ⟨valid, heights⟩ := run.wellFormed (.outermost fits)
      exact ⟨valid, Option.isSome_iff_exists.mpr ⟨_, heights⟩⟩
    | some stop =>
      cases stop with
      | trap => exact (untrapped run.trap_mem).elim
      | fault fault => cases answered
  · rintro ⟨valid, some⟩
    obtain ⟨height, heights⟩ := Option.isSome_iff_exists.mp some
    rcases run.sound start valid heights with ⟨rfl, _⟩ | rfl
    · simp only [Memory.result]
      split <;> exact ⟨_, rfl⟩
    · exact ⟨_, rfl⟩
  · rintro height ⟨valid, _⟩ heights
    rcases run.sound start valid heights with ⟨rfl, rfl⟩ | rfl
    · refine ⟨fun trap => (run.trap_not_mem trap).elim, fun _ => ?_⟩
      simp only [Memory.result]
      split <;> simp_all
    · exact ⟨fun _ => rfl, fun untrapped => (untrapped run.trap_mem).elim⟩

theorem run_ok_iff_wellFormed_block :
    let machine : Machine Unit := ⟨1, .silent⟩
    let locals : Locals := ⟨[some (.i32 1)]⟩
    let code : List Instruction :=
      [.setLocal (some 0) (some (.const (some 7))),
        .loop [.getLocal (some 0), .const (some 2), .binary .mul], .getLocal (some 0)]
    (∀ slot ∈ locals.slots, ∃ n, slot = some (.i32 n)) ∧ DepthFits machine.limit code ∧
      .trap ∉ partsAll code ∧ WellFormed locals.size machine.limit.toNat code ∧
      (∃ outcome, (machine.run code locals ()).1 = .ok outcome) ∧
      ∃ v, (machine.run code locals ()).1 = .ok (.value v) := by
  intro machine locals code
  have integers : ∀ slot ∈ locals.slots, ∃ n, slot = some (.i32 n) := by simp [locals]
  have fits : DepthFits machine.limit code := by decide
  have untrapped : .trap ∉ partsAll code := by simp [code, partsAll, parts]
  have valid : WellFormed locals.size machine.limit.toNat code := by decide
  obtain ⟨characterized, answers⟩ := machine.run_ok_iff_wellFormed code locals () integers
  obtain ⟨value, _⟩ := (answers 1 valid rfl).2 untrapped
  exact ⟨integers, fits, untrapped, valid, (characterized fits untrapped).mpr valid,
    value.mpr Nat.one_pos⟩

end Machine

end FrameMachine
