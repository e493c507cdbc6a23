import FrameMachine.Proofs.Nesting
import FrameMachine.Proofs.TraceOrder

/-! The events of an execution are a complete log of what it wrote. Replaying them over the first
locals gives the last ones, however the execution ended. The log needs no value stack for that: only a
constant or a read can initialize an assignment that completes, since every initializer starts with no
values. Replaying the events of one frame also gives the value stack of that frame. -/

namespace FrameMachine

namespace Locals

/-- What an event says was written. Only completed assignments write, and the instruction alone says
what: a constant, or what another slot holds at that time. -/
def replay (locals : Locals) (event : Event) : Locals :=
  match event.instruction with
  | .setLocal (some index) (some (.const (some n))) =>
    ⟨locals.slots.set index.toNat (some (.i32 (Int32.ofInt n.toInt)))⟩
  | .setLocal (some index) (some (.getLocal (some source))) =>
    ⟨locals.slots.set index.toNat locals.slots[source.toNat]?.join⟩
  | _ => locals

def replayAll (locals : Locals) (events : List Event) : Locals := events.foldl replay locals

@[simp] theorem replayAll_nil (locals : Locals) : locals.replayAll [] = locals := rfl

@[simp] theorem replayAll_cons (locals : Locals) (event : Event) (events : List Event) :
    locals.replayAll (event :: events) = (locals.replay event).replayAll events := rfl

@[simp] theorem replayAll_append (locals : Locals) (first last : List Event) :
    locals.replayAll (first ++ last) = (locals.replayAll first).replayAll last :=
  List.foldl_append

end Locals

namespace Memory

def replay (depth : UInt64) (memory : Memory) (event : Event) : Memory where
  locals := memory.locals.replay event
  values :=
    if event.depth = depth then
      match event.instruction with
      | .const (some n) => .i32 (Int32.ofInt n.toInt) :: memory.values
      | .getLocal (some index) => memory.locals.slots[index.toNat]?.join.toList ++ memory.values
      | .binary operator =>
        match memory.values with
        | rhs :: lhs :: rest => (operator.apply lhs rhs).toOption.toList ++ rest
        | short => short
      | _ => memory.values
    else memory.values

def replayAll (depth : UInt64) (memory : Memory) (events : List Event) : Memory :=
  events.foldl (replay depth) memory

theorem replayAll_append (depth : UInt64) (memory : Memory) (first last : List Event) :
    memory.replayAll depth (first ++ last) = (memory.replayAll depth first).replayAll depth last :=
  List.foldl_append

theorem replayAll_cons (depth : UInt64) (memory : Memory) (event : Event) (events : List Event) :
    memory.replayAll depth (event :: events) =
      (memory.replay depth event).replayAll depth events := rfl

theorem replayAll_elsewhere {depth : UInt64} (memory : Memory) {events : List Event}
    (elsewhere : ∀ event ∈ events, event.depth ≠ depth) :
    memory.replayAll depth events = ⟨memory.values, memory.locals.replayAll events⟩ := by
  induction events generalizing memory with
  | nil => rfl
  | cons event events ih =>
    have away := elsewhere event (by simp)
    rw [replayAll_cons, ih _ (fun event member => elsewhere event (by simp [member]))]
    simp only [replay, away, if_false, Locals.replayAll_cons]

end Memory

namespace Locals

theorem get_eq_ok {locals : Locals} {index : UInt64} {v : Value} (got : locals.get index = .ok v) :
    locals.slots[index.toNat]? = some (some v) := by
  unfold get at got
  split at got <;> simp_all

theorem get_of_slot {locals : Locals} {index : UInt64} {v : Value}
    (holds : locals.slots[index.toNat]? = some (some v)) : locals.get index = .ok v := by
  simp only [get, holds]

theorem set_eq_ok {locals updated : Locals} {index : UInt64} {v : Value}
    (written : locals.set index v = .ok updated) :
    index.toNat < locals.size ∧ updated = ⟨locals.slots.set index.toNat (some v)⟩ := by
  unfold set at written
  split at written
  next inside => exact ⟨inside, (Except.ok.inj written).symm⟩
  next => cases written

end Locals

theorem Value.create_i32_eq_ok {n : Int64} {v : Value} (made : Value.create .i32 n = .ok v) :
    (Int32.minValue.toInt ≤ n.toInt ∧ n.toInt ≤ Int32.maxValue.toInt) ∧
      v = .i32 (Int32.ofInt n.toInt) := by
  simp only [Value.create, Value.ofInt?] at made
  split at made
  next small found =>
    split at found
    next fits => exact ⟨fits, by simp_all⟩
    next => cases found
  next => cases made

theorem Value.create_i32 {n : Int64}
    (fits : Int32.minValue.toInt ≤ n.toInt ∧ n.toInt ≤ Int32.maxValue.toInt) :
    Value.create .i32 n = .ok (.i32 (Int32.ofInt n.toInt)) := by
  simp only [Value.create, Value.ofInt?, fits, and_self, if_true]

namespace Instruction

/-- An instruction can give a value without being given any: it is a constant, or it reads a slot. -/
inductive Gives (locals : Locals) : Instruction → Value → Prop where
  | const {n v} (made : Value.create .i32 n = .ok v) : Gives locals (.const (some n)) v
  | read {index v} (got : locals.get index = .ok v) : Gives locals (.getLocal (some index)) v

theorem Completes.gives {instruction : Instruction} {locals : Locals} {v : Value} {rest : List Value}
    (completes : instruction.Completes ⟨[], locals⟩ (v :: rest)) :
    instruction.Gives locals v ∧ rest = [] := by
  cases completes with
  | const made => exact ⟨.const made, rfl⟩
  | read got => exact ⟨.read got, rfl⟩
  | operate found => cases found

/-- Such an instruction pushes its value, whatever the values of its frame. -/
theorem Gives.runs {instruction : Instruction} {locals : Locals} {v : Value}
    (gives : instruction.Gives locals v) {limit depth : UInt64} {pc : Nat} {values : List Value} :
    Runs limit depth pc [instruction] ⟨values, locals⟩ [⟨depth, pc, instruction⟩] none
      ⟨v :: values, locals⟩ := by
  have leaf : instruction.child? = none := by cases gives <;> rfl
  have pushes : instruction.effect ⟨values, locals⟩ = (none, v :: values) := by
    cases gives with
    | const made => simp only [effect, made, pushed]
    | read got => simp only [effect, got, pushed]
  exact .simple leaf pushes .finished

end Instruction

open Instruction

/-- An initializer that leaves a value is an instruction that gives one, and writes nothing. -/
theorem Runs.initializer {limit depth : UInt64} {init : Instruction} {locals : Locals}
    {after : Memory} {events : List Event} {v : Value} {rest : List Value}
    (run : Runs limit depth 0 [init] ⟨[], locals⟩ events none after)
    (left : after.values = v :: rest) :
    init.Gives locals v ∧ after = ⟨[v], locals⟩ ∧ events = [⟨depth, 0, init⟩] := by
  cases run with
  | simple leaf completes remaining =>
    cases remaining
    simp only at left
    subst left
    obtain ⟨gives, rfl⟩ := (completes_of_effect leaf completes).gives
    exact ⟨gives, rfl, rfl⟩
  | nested child _ _ _ remaining =>
    cases remaining
    cases left

/-- What it means that an instruction with a child completed: a loop keeps what its body wrote, and an
assignment writes what its initializer gave. -/
inductive Completed (depth : UInt64) :
    Instruction → Locals → List Event → Locals → Locals → Prop where
  | loop {body before events inner} : Completed depth (.loop body) before events inner inner
  | assign {index init v locals}
      (gives : Gives locals init v) (inside : index.toNat < locals.size) :
      Completed depth (.setLocal (some index) (some init)) locals [⟨depth + 1, 0, init⟩] locals
        ⟨locals.slots.set index.toNat (some v)⟩

theorem Runs.completed {limit depth : UInt64} {instruction : Instruction} {body : List Instruction}
    {before locals : Locals} {inner : Memory} {events : List Event}
    (child : instruction.child? = some body)
    (nested : Runs limit (depth + 1) 0 body ⟨[], before⟩ events none inner)
    (completes : instruction.finish inner = .ok locals) :
    Completed depth instruction before events inner.locals locals := by
  cases child_of_child? child with
  | body =>
    cases completes
    exact .loop
  | initializer =>
    simp only [finish] at completes
    split at completes
    next v rest left =>
      obtain ⟨gives, rfl, rfl⟩ := nested.initializer left
      obtain ⟨inside, rfl⟩ := Locals.set_eq_ok completes
      exact .assign gives inside
    next => cases completes

theorem Completed.replay {depth : UInt64} {instruction : Instruction} {before inner locals : Locals}
    {events : List Event} (completed : Completed depth instruction before events inner locals)
    (pc : Nat) : inner.replay ⟨depth, pc, instruction⟩ = locals := by
  cases completed with
  | loop => rfl
  | assign gives inside =>
    cases gives with
    | const made =>
      obtain ⟨_, rfl⟩ := Value.create_i32_eq_ok made
      rfl
    | read got => simp only [Locals.replay, Locals.get_eq_ok got, Option.join_some]

theorem Locals.replay_leaf {instruction : Instruction} (locals : Locals) (depth : UInt64) (pc : Nat)
    (leaf : instruction.child? = none) : locals.replay ⟨depth, pc, instruction⟩ = locals := by
  cases instruction with
  | setLocal index init => cases index <;> cases init <;> first | rfl | cases leaf
  | const | nop | loop | trap | getLocal | binary | unknown => rfl

theorem Runs.replays {limit depth : UInt64} {pc : Nat} {code : List Instruction}
    {before after : Memory} {events : List Event} {stop : Option Stop}
    (run : Runs limit depth pc code before events stop after) :
    after.locals = before.locals.replayAll events := by
  induction run with
  | finished | halted | tooDeep => rfl
  | simple leaf _ _ ih => rw [ih, Locals.replayAll_cons, Locals.replay_leaf _ _ _ leaf]
  | childHalted _ _ _ ih | refused _ _ _ _ ih => exact ih
  | nested child _ nested completes _ inner ih =>
    rw [ih, Locals.replayAll_append, Locals.replayAll_cons, ← inner,
      (nested.completed child completes).replay]

/-- The only assignments that are ever reported: those of a constant that fits and those of another
slot. -/
def Instruction.Assigns : Instruction → Prop
  | .setLocal index init => ∃ target, index = some target ∧
      ((∃ n, init = some (.const (some n)) ∧
          Int32.minValue.toInt ≤ n.toInt ∧ n.toInt ≤ Int32.maxValue.toInt) ∨
        ∃ source, init = some (.getLocal (some source)))
  | _ => True

theorem Instruction.Completes.assigns {instruction : Instruction} {memory : Memory}
    {values : List Value} (completes : instruction.Completes memory values) :
    instruction.Assigns := by
  cases completes <;> trivial

theorem Completed.assigns {depth : UInt64} {instruction : Instruction} {before inner locals : Locals}
    {events : List Event} (completed : Completed depth instruction before events inner locals) :
    instruction.Assigns := by
  cases completed with
  | loop => trivial
  | @assign index _ _ _ gives _ =>
    cases gives with
    | @const n _ made => exact ⟨index, rfl, .inl ⟨n, rfl, (Value.create_i32_eq_ok made).1⟩⟩
    | @read source _ _ => exact ⟨index, rfl, .inr ⟨source, rfl⟩⟩

theorem Runs.assigns {limit depth : UInt64} {pc : Nat} {code : List Instruction}
    {before after : Memory} {events : List Event} {stop : Option Stop}
    (run : Runs limit depth pc code before events stop after) :
    ∀ event ∈ events, event.instruction.Assigns := by
  induction run with
  | finished | halted | tooDeep => simp
  | simple leaf completes _ ih =>
    have first := (completes_of_effect leaf completes).assigns
    exact List.forall_mem_cons.mpr ⟨first, ih⟩
  | childHalted _ _ _ ih | refused _ _ _ _ ih => exact ih
  | nested child _ nested completes _ inner ih =>
    have own := (nested.completed child completes).assigns
    exact List.forall_mem_append.mpr ⟨inner, List.forall_mem_cons.mpr ⟨own, ih⟩⟩

theorem Memory.replay_leaf {instruction : Instruction} {memory : Memory} {values : List Value}
    (depth : UInt64) (pc : Nat) (completes : instruction.Completes memory values) :
    memory.replay depth ⟨depth, pc, instruction⟩ = ⟨values, memory.locals⟩ := by
  cases completes with
  | nop | emptyLoop => simp only [replay, Locals.replay, if_true]
  | const made =>
    obtain ⟨_, rfl⟩ := Value.create_i32_eq_ok made
    simp only [replay, Locals.replay, if_true]
  | read got =>
    simp only [replay, Locals.replay, if_true, Locals.get_eq_ok got, Option.join_some,
      Option.toList_some, List.singleton_append]
  | operate found applied =>
    simp only [replay, Locals.replay, if_true, found, applied, Except.toOption, Option.toList_some,
      List.singleton_append]

theorem Memory.replay_child {instruction : Instruction} {body : List Instruction} (memory : Memory)
    (depth : UInt64) (pc : Nat) (child : instruction.child? = some body) :
    memory.replay depth ⟨depth, pc, instruction⟩ =
      ⟨memory.values, memory.locals.replay ⟨depth, pc, instruction⟩⟩ := by
  cases child_of_child? child <;> simp only [replay, if_true]

/-- The events of a frame, among those of all frames, replay its values up to its end or to a trap. -/
theorem Runs.replays_values {limit depth : UInt64} {pc : Nat} {code : List Instruction}
    {before after : Memory} {events : List Event} {stop : Option Stop}
    (run : Runs limit depth pc code before events stop after) (fits : DepthFits limit code)
    (sound : ∀ fault, stop ≠ some (.fault fault)) :
    after = before.replayAll depth events := by
  induction run with
  | finished => rfl
  | simple leaf completes _ ih =>
    rw [Memory.replayAll_cons, Memory.replay_leaf _ _ (completes_of_effect leaf completes)]
    exact ih fits.tail sound
  | @halted _ _ instruction _ _ _ stop leaf stops =>
    cases stop with
    | trap =>
      obtain rfl := effect_trap stops
      cases stops
      rfl
    | fault fault => exact (sound fault rfl).elim
  | tooDeep => exact (sound _ rfl).elim
  | childHalted child shallow nested _ =>
    rw [Memory.replayAll_elsewhere _ (nested.child_depth_ne fits child shallow), nested.replays]
  | refused => exact (sound _ rfl).elim
  | nested child shallow nested completes _ _ ih =>
    have written := (nested.completed child completes).replay
    have elsewhere := nested.child_depth_ne fits child shallow
    rw [Memory.replayAll_append, Memory.replayAll_cons, Memory.replayAll_elsewhere _ elsewhere,
      Memory.replay_child _ _ _ child]
    simp only [← nested.replays, written]
    exact ih fits.tail sound

namespace Machine

variable {σ : Type}

/-- The events of an execution say all that it did. Replayed in order they give the locals it left,
whatever the result; every reported assignment is of a constant or of another slot. If the result is
no fault, they also give the values: replaying those of the frame itself leaves what it kept, with the
value it answered on top. A run is the case of depth 0 and no values. -/
theorem execute_replays (machine : Machine σ) (depth : UInt64) (code : List Instruction)
    (values : List Value) (locals : Locals) (seen : σ) :
    let events := machine.events depth code values locals
    let (result, after) := machine.execute depth code ⟨values, locals, seen⟩
    after.locals = locals.replayAll events ∧
    (∀ event ∈ events, event.instruction.Assigns) ∧
    (DepthFits machine.limit code → ∀ outcome, result = .ok outcome →
      ((⟨values, locals⟩ : Memory).replayAll depth events).values =
        match outcome with
        | .value v => v :: after.values
        | _ => after.values) := by
  by_cases deep : machine.limit < depth
  · simp [machine.execute_tooDeep deep, machine.events_tooDeep deep]
  · obtain ⟨stop, after, run, executed⟩ := machine.execute_runs deep code values locals
    simp only [executed seen]
    refine ⟨run.replays, run.assigns, ?_⟩
    intro fits outcome answered
    have sound : ∀ fault, stop ≠ some (.fault fault) := by
      rintro fault rfl
      cases answered
    rw [← run.replays_values fits sound]
    cases stop with
    | none =>
      simp only [Memory.result] at answered ⊢
      split at answered <;> cases answered <;> simp_all
    | some stop =>
      cases stop with
      | trap => cases answered; rfl
      | fault fault => cases answered

theorem execute_replays_nested_write :
    let machine : Machine Unit := ⟨9, .silent⟩
    let locals : Locals := ⟨[some (.i32 3), none]⟩
    let code : List Instruction :=
      [.const (some 5), .loop [.setLocal (some 1) (some (.getLocal (some 0)))], .getLocal (some 1),
        .binary .add]
    DepthFits machine.limit code ∧
    (machine.execute 7 code ⟨[.i32 1], locals, ()⟩).1 = .ok (.value (.i32 8)) ∧
    ((⟨[.i32 1], locals⟩ : Memory).replayAll 7 (machine.events 7 code [.i32 1] locals)).values =
      [.i32 8, .i32 1] := by
  intro machine locals code
  have fits : DepthFits machine.limit code := by decide
  have answered : (machine.execute 7 code ⟨[.i32 1], locals, ()⟩).1 = .ok (.value (.i32 8)) := rfl
  exact ⟨fits, answered, (machine.execute_replays 7 code [.i32 1] locals ()).2.2 fits _ answered⟩

end Machine

end FrameMachine
