import FrameMachine.Machine

/-! Execution as a relation between what a frame starts with and what it leaves. The rules say once
what an instruction can do, so a fact about every execution is an induction over seven cases. The
relation has no observer: it lists the events, and every observer is shown to fold that list. -/

namespace FrameMachine

/-- What a frame can reach without its observer: its value stack, top first, and the locals. -/
structure Memory where
  values : List Value
  locals : Locals

namespace Instruction

def child? : Instruction → Option (List Instruction)
  | .loop (first :: rest) => some (first :: rest)
  | .setLocal (some _) (some init) => some [init]
  | _ => none

/-- The two forms that have a child: a loop with a body, and an assignment with both operands. -/
inductive Child : Instruction → List Instruction → Prop where
  | body {first rest} : Child (.loop (first :: rest)) (first :: rest)
  | initializer {index init} : Child (.setLocal (some index) (some init)) [init]

theorem child_of_child? {instruction : Instruction} {body : List Instruction}
    (child : instruction.child? = some body) : instruction.Child body := by
  cases instruction with
  | loop code =>
    cases code with
    | nil => cases child
    | cons first rest => cases child; exact .body
  | setLocal index init =>
    cases index <;> cases init <;> cases child
    exact .initializer
  | const | nop | trap | getLocal | binary | unknown => cases child

def pushed (values : List Value) : Except Fault Value → Option Stop × List Value
  | .ok v => (none, v :: values)
  | .error fault => (some (.fault fault), values)

/-- What an instruction without a child does: why it stops, if it does, and the value stack it
leaves. It can read the locals and never writes them. -/
def effect (memory : Memory) : Instruction → Option Stop × List Value
  | .const none => (some (.fault (.missingOperand .constValue)), memory.values)
  | .const (some n) => pushed memory.values (Value.create .i32 n)
  | .trap => (some .trap, memory.values)
  | .getLocal none => (some (.fault (.missingOperand .getIndex)), memory.values)
  | .getLocal (some index) => pushed memory.values (memory.locals.get index)
  | .setLocal none _ => (some (.fault (.missingOperand .setIndex)), memory.values)
  | .setLocal (some _) none => (some (.fault (.missingOperand .setInitializer)), memory.values)
  | .binary operator =>
    match memory.values with
    | rhs :: lhs :: rest => pushed rest (operator.apply lhs rhs)
    | short => (some (.fault (.stackUnderflow operator 2 short.length)), short)
  | .unknown => (some (.fault .unknownInstruction), memory.values)
  | _ => (none, memory.values)

def finish (child : Memory) : Instruction → Except Fault Locals
  | .setLocal (some index) _ =>
    match child.values with
    | v :: _ => child.locals.set index v
    | [] => .error (.emptyInitializer index)
  | _ => .ok child.locals

/-- All that an instruction without a child can have done once it completed. -/
inductive Completes (memory : Memory) : Instruction → List Value → Prop where
  | nop : Completes memory .nop memory.values
  | emptyLoop : Completes memory (.loop []) memory.values
  | const {n v} (made : Value.create .i32 n = .ok v) :
      Completes memory (.const (some n)) (v :: memory.values)
  | read {index v} (got : memory.locals.get index = .ok v) :
      Completes memory (.getLocal (some index)) (v :: memory.values)
  | operate {operator rhs lhs rest v} (found : memory.values = rhs :: lhs :: rest)
      (applied : operator.apply lhs rhs = .ok v) : Completes memory (.binary operator) (v :: rest)

private theorem pushed_eq_none {values left : List Value} {made : Except Fault Value}
    (completes : pushed values made = (none, left)) : ∃ v, made = .ok v ∧ left = v :: values := by
  cases made with
  | ok v => exact ⟨v, rfl, (Prod.mk.inj completes).2.symm⟩
  | error fault => cases completes

theorem completes_of_effect {instruction : Instruction} {memory : Memory} {values : List Value}
    (leaf : instruction.child? = none) (completes : instruction.effect memory = (none, values)) :
    instruction.Completes memory values := by
  cases instruction with
  | const value =>
    cases value with
    | none => cases completes
    | some n =>
      obtain ⟨v, made, rfl⟩ := pushed_eq_none completes
      exact .const made
  | getLocal index =>
    cases index with
    | none => cases completes
    | some index =>
      obtain ⟨v, got, rfl⟩ := pushed_eq_none completes
      exact .read got
  | loop code =>
    cases code with
    | nil => cases completes; exact .emptyLoop
    | cons first rest => cases leaf
  | setLocal index init =>
    cases index with
    | none => cases completes
    | some index =>
      cases init with
      | none => cases completes
      | some init => cases leaf
  | binary operator =>
    simp only [effect] at completes
    split at completes
    next found =>
      obtain ⟨v, applied, rfl⟩ := pushed_eq_none completes
      exact .operate found applied
    next => cases completes
  | nop => cases completes; exact .nop
  | trap | unknown => cases completes

inductive Stops (memory : Memory) : Instruction → Stop → Prop where
  | trap : Stops memory .trap .trap
  | noValue : Stops memory (.const none) (.fault (.missingOperand .constValue))
  | const {n fault} (made : Value.create .i32 n = .error fault) :
      Stops memory (.const (some n)) (.fault fault)
  | noSource : Stops memory (.getLocal none) (.fault (.missingOperand .getIndex))
  | read {index fault} (got : memory.locals.get index = .error fault) :
      Stops memory (.getLocal (some index)) (.fault fault)
  | noTarget {init} : Stops memory (.setLocal none init) (.fault (.missingOperand .setIndex))
  | noInitializer {index} :
      Stops memory (.setLocal (some index) none) (.fault (.missingOperand .setInitializer))
  | underflow {operator} (short : memory.values.length < 2) :
      Stops memory (.binary operator) (.fault (.stackUnderflow operator 2 memory.values.length))
  | operate {operator rhs lhs rest fault} (found : memory.values = rhs :: lhs :: rest)
      (applied : operator.apply lhs rhs = .error fault) :
      Stops memory (.binary operator) (.fault fault)
  | unknown : Stops memory .unknown (.fault .unknownInstruction)

private theorem pushed_eq_some {values left : List Value} {made : Except Fault Value} {stop : Stop}
    (stops : pushed values made = (some stop, left)) :
    ∃ fault, made = .error fault ∧ stop = .fault fault := by
  cases made with
  | ok v => cases stops
  | error fault => cases stops; exact ⟨fault, rfl, rfl⟩

theorem stops_of_effect {instruction : Instruction} {memory : Memory} {stop : Stop}
    {values : List Value} (stops : instruction.effect memory = (some stop, values)) :
    instruction.Stops memory stop := by
  cases instruction with
  | const value =>
    cases value with
    | none => cases stops; exact .noValue
    | some n =>
      obtain ⟨fault, made, rfl⟩ := pushed_eq_some stops
      exact .const made
  | getLocal index =>
    cases index with
    | none => cases stops; exact .noSource
    | some index =>
      obtain ⟨fault, got, rfl⟩ := pushed_eq_some stops
      exact .read got
  | setLocal index init =>
    cases index with
    | none => cases stops; exact .noTarget
    | some index =>
      cases init with
      | none => cases stops; exact .noInitializer
      | some init => cases stops
  | binary operator =>
    obtain ⟨values, locals⟩ := memory
    cases values with
    | nil => cases stops; exact .underflow Nat.two_pos
    | cons rhs below =>
      cases below with
      | nil => cases stops; exact .underflow Nat.one_lt_two
      | cons lhs rest =>
        obtain ⟨fault, applied, rfl⟩ := pushed_eq_some stops
        exact .operate rfl applied
  | trap => cases stops; exact .trap
  | unknown => cases stops; exact .unknown
  | nop | loop => cases stops

end Instruction

/-- Executing `code`, with `pc` instructions behind, reports `events` and leaves `after`; without a
stop the code ran to its end. -/
inductive Runs (limit : UInt64) :
    UInt64 → Nat → List Instruction → Memory → List Event → Option Stop → Memory → Prop where
  | finished {depth pc memory} : Runs limit depth pc [] memory [] none memory
  | simple {depth pc instruction rest before values events stop after}
      (leaf : instruction.child? = none) (completes : instruction.effect before = (none, values))
      (remaining : Runs limit depth (pc + 1) rest ⟨values, before.locals⟩ events stop after) :
      Runs limit depth pc (instruction :: rest) before (⟨depth, pc, instruction⟩ :: events) stop after
  | halted {depth pc instruction rest before values stop}
      (leaf : instruction.child? = none) (stops : instruction.effect before = (some stop, values)) :
      Runs limit depth pc (instruction :: rest) before [] (some stop) ⟨values, before.locals⟩
  | tooDeep {depth pc instruction rest before body}
      (child : instruction.child? = some body) (deep : limit < depth + 1) :
      Runs limit depth pc (instruction :: rest) before [] (some (.fault (.depthExceeded limit)))
        before
  | childHalted {depth pc instruction rest before body events stop inner}
      (child : instruction.child? = some body) (shallow : ¬ limit < depth + 1)
      (nested : Runs limit (depth + 1) 0 body ⟨[], before.locals⟩ events (some stop) inner) :
      Runs limit depth pc (instruction :: rest) before events (some stop)
        ⟨before.values, inner.locals⟩
  | refused {depth pc instruction rest before body events inner fault}
      (child : instruction.child? = some body) (shallow : ¬ limit < depth + 1)
      (nested : Runs limit (depth + 1) 0 body ⟨[], before.locals⟩ events none inner)
      (fails : instruction.finish inner = .error fault) :
      Runs limit depth pc (instruction :: rest) before events (some (.fault fault))
        ⟨before.values, inner.locals⟩
  | nested {depth pc instruction rest before body events inner locals later stop after}
      (child : instruction.child? = some body) (shallow : ¬ limit < depth + 1)
      (nested : Runs limit (depth + 1) 0 body ⟨[], before.locals⟩ events none inner)
      (completes : instruction.finish inner = .ok locals)
      (remaining : Runs limit depth (pc + 1) rest ⟨before.values, locals⟩ later stop after) :
      Runs limit depth pc (instruction :: rest) before
        (events ++ ⟨depth, pc, instruction⟩ :: later) stop after

namespace Instruction

theorem child?_size {instruction : Instruction} {body : List Instruction}
    (child : instruction.child? = some body) : sizeAll body < instruction.size := by
  cases child_of_child? child <;> simp only [size, sizeAll] <;> omega

theorem size_pos (instruction : Instruction) : 0 < instruction.size := by
  cases instruction with
  | setLocal index init => cases init <;> simp only [size] <;> omega
  | const | nop | loop | trap | getLocal | binary | unknown => simp only [size]; omega

end Instruction

/-- From every state there is an execution: the machine always comes to an end. -/
theorem Runs.exists (limit depth : UInt64) (pc : Nat) (code : List Instruction) (before : Memory) :
    ∃ events stop after, Runs limit depth pc code before events stop after := by
  match code with
  | [] => exact ⟨_, _, _, .finished⟩
  | first :: rest =>
    have positive := first.size_pos
    cases child : first.child? with
    | none =>
      rcases effect : first.effect before with ⟨_ | stop, values⟩
      · obtain ⟨events, stop, after, remaining⟩ :=
          Runs.exists limit depth (pc + 1) rest ⟨values, before.locals⟩
        exact ⟨_, _, _, .simple child effect remaining⟩
      · exact ⟨_, _, _, .halted child effect⟩
    | some body =>
      have smaller := Instruction.child?_size child
      by_cases deep : limit < depth + 1
      · exact ⟨_, _, _, .tooDeep child deep⟩
      · obtain ⟨events, _ | stop, inner, nested⟩ :=
          Runs.exists limit (depth + 1) 0 body ⟨[], before.locals⟩
        · cases finish : first.finish inner with
          | error fault => exact ⟨_, _, _, .refused child deep nested finish⟩
          | ok locals =>
            obtain ⟨later, stop, after, remaining⟩ :=
              Runs.exists limit depth (pc + 1) rest ⟨before.values, locals⟩
            exact ⟨_, _, _, .nested child deep nested finish remaining⟩
        · exact ⟨_, _, _, .childHalted child deep nested⟩
termination_by Instruction.sizeAll code
decreasing_by all_goals simp only [Instruction.sizeAll]; omega

def Observer.noticeAll {σ : Type} (observer : Observer σ) (events : List Event) (seen : σ) : σ :=
  events.foldl (fun seen event => observer.notice event seen) seen

@[simp] theorem Observer.noticeAll_nil {σ : Type} (observer : Observer σ) (seen : σ) :
    observer.noticeAll [] seen = seen := rfl

@[simp] theorem Observer.noticeAll_cons {σ : Type} (observer : Observer σ) (event : Event)
    (events : List Event) (seen : σ) :
    observer.noticeAll (event :: events) seen =
      observer.noticeAll events (observer.notice event seen) := rfl

@[simp] theorem Observer.noticeAll_append {σ : Type} (observer : Observer σ) (first last : List Event)
    (seen : σ) :
    observer.noticeAll (first ++ last) seen =
      observer.noticeAll last (observer.noticeAll first seen) :=
  List.foldl_append

theorem Observer.noticeAll_recorder (events : List Event) (seen : Array Event) :
    (Observer.recorder.noticeAll events seen).toList = seen.toList ++ events := by
  induction events generalizing seen with
  | nil => simp
  | cons event events ih =>
    rw [Observer.noticeAll_cons, ih]
    simp [Observer.recorder]

def Progress.ending {σ : Type} (stop : Option Stop) (state : State σ) : Progress σ :=
  match stop with
  | none => .ran state
  | some stop => .stopped stop state

theorem Progress.ending_inj {σ : Type} {stop ending : Option Stop} {state last : State σ}
    (same : Progress.ending stop state = .ending ending last) : stop = ending ∧ state = last := by
  cases stop <;> cases ending <;> cases same <;> exact ⟨rfl, rfl⟩

namespace Machine

variable {σ : Type} (machine : Machine σ)

private theorem pushOrFail_ending (values : List Value) (locals : Locals) (seen : σ)
    (made : Except Fault Value) :
    (⟨values, locals, seen⟩ : State σ).pushOrFail made =
      .ending (Instruction.pushed values made).1
        ⟨(Instruction.pushed values made).2, locals, seen⟩ := by
  cases made <;> rfl

theorem step_leaf (depth : UInt64) {instruction : Instruction} (before : Memory) (seen : σ)
    (leaf : instruction.child? = none) :
    machine.step depth instruction ⟨before.values, before.locals, seen⟩ =
      .ending (instruction.effect before).1 ⟨(instruction.effect before).2, before.locals, seen⟩ := by
  cases instruction with
  | const value =>
    cases value with
    | none => simp only [step, Instruction.effect]; rfl
    | some n => simp only [step, Instruction.effect, pushOrFail_ending]
  | nop => simp only [step, Instruction.effect, Progress.ending]
  | loop body =>
    cases body with
    | nil => simp only [step, Instruction.effect, Progress.ending, List.isEmpty_nil, if_true]
    | cons first rest => cases leaf
  | trap => simp only [step, Instruction.effect, Progress.ending]
  | getLocal index =>
    cases index with
    | none => simp only [step, Instruction.effect]; rfl
    | some index => simp only [step, Instruction.effect, pushOrFail_ending]
  | setLocal index init =>
    cases index with
    | none => simp only [step, Instruction.effect]; rfl
    | some index =>
      cases init with
      | none => simp only [step, Instruction.effect]; rfl
      | some init => cases leaf
  | binary operator =>
    obtain ⟨values, locals⟩ := before
    simp only [step, Instruction.effect, State.operate]
    split <;> simp only [pushOrFail_ending, State.fail, Progress.ending]
  | unknown => simp only [step, Instruction.effect]; rfl

/-- An instruction with a child runs it as the code of a nested frame. An initializer is code of
one instruction. -/
theorem step_child (depth : UInt64) {instruction : Instruction} {body : List Instruction}
    (before : Memory) (seen : σ) (child : instruction.child? = some body) :
    machine.step depth instruction ⟨before.values, before.locals, seen⟩ =
      if machine.limit < depth + 1 then
        .stopped (.fault (.depthExceeded machine.limit)) ⟨before.values, before.locals, seen⟩
      else
        match machine.sequence (depth + 1) 0 body ⟨[], before.locals, seen⟩ with
        | .stopped stop inner => .stopped stop ⟨before.values, inner.locals, inner.seen⟩
        | .ran inner =>
          match instruction.finish ⟨inner.values, inner.locals⟩ with
          | .ok locals => .ran ⟨before.values, locals, inner.seen⟩
          | .error fault => .stopped (.fault fault) ⟨before.values, inner.locals, inner.seen⟩ := by
  cases Instruction.child_of_child? child with
  | body =>
    simp only [step, nested, List.isEmpty_cons, Bool.false_eq_true, if_false, State.fail,
      Instruction.finish]
    split
    · rfl
    · split <;> simp_all
  | @initializer index init =>
    simp only [step, sequence, nested, State.fail, Instruction.finish]
    split
    · rfl
    · cases machine.step (depth + 1) init ⟨[], before.locals, seen⟩ with
      | stopped stop inner => rfl
      | ran inner =>
        simp only [Progress.andThen, State.assign, State.fail]
        cases (machine.report (depth + 1) 0 init inner).values with
        | nil => rfl
        | cons v rest =>
          cases (machine.report (depth + 1) 0 init inner).locals.set index v <;> rfl

/-- The relation is what the machine does, whoever observes it. -/
theorem sequence_of_runs {depth : UInt64} {pc : Nat} {code : List Instruction} {before after : Memory}
    {events : List Event} {stop : Option Stop}
    (run : Runs machine.limit depth pc code before events stop after) (seen : σ) :
    machine.sequence depth pc code ⟨before.values, before.locals, seen⟩ =
      .ending stop ⟨after.values, after.locals, machine.observer.noticeAll events seen⟩ := by
  induction run generalizing seen with
  | finished => simp only [sequence, Progress.ending, Observer.noticeAll_nil]
  | simple leaf completes _ ih =>
    simp only [sequence, machine.step_leaf _ _ _ leaf, completes, Progress.ending,
      Progress.andThen, report, ih, Observer.noticeAll_cons]
  | halted leaf stops =>
    simp only [sequence, machine.step_leaf _ _ _ leaf, stops, Progress.ending,
      Progress.andThen, Observer.noticeAll_nil]
  | tooDeep child deep =>
    simp only [sequence, machine.step_child _ _ _ child, if_pos deep, Progress.andThen,
      Progress.ending, Observer.noticeAll_nil]
  | childHalted child shallow _ ih =>
    simp only [sequence, machine.step_child _ _ _ child, if_neg shallow, ih, Progress.andThen,
      Progress.ending]
  | refused child shallow _ fails ih =>
    simp only [sequence, machine.step_child _ _ _ child, if_neg shallow, ih, fails, Progress.andThen,
      Progress.ending]
  | nested child shallow _ completes _ ih later =>
    simp only [sequence, machine.step_child _ _ _ child, if_neg shallow, ih, completes,
      Progress.andThen, report, later, Progress.ending, Observer.noticeAll_append,
      Observer.noticeAll_cons]

end Machine

/-- There is one execution from every state. -/
theorem Runs.unique {limit depth : UInt64} {pc : Nat} {code : List Instruction}
    {before after last : Memory} {events others : List Event} {stop ending : Option Stop}
    (run : Runs limit depth pc code before events stop after)
    (second : Runs limit depth pc code before others ending last) :
    events = others ∧ stop = ending ∧ after = last := by
  let machine : Machine (Array Event) := ⟨limit, .recorder⟩
  have same := (machine.sequence_of_runs run #[]).symm.trans (machine.sequence_of_runs second #[])
  obtain ⟨stops, states⟩ := Progress.ending_inj same
  obtain ⟨values, locals, seen⟩ := State.mk.inj states
  have recorded := congrArg Array.toList seen
  simp only [machine, Observer.noticeAll_recorder, List.nil_append] at recorded
  exact ⟨recorded, stops, congr (congrArg Memory.mk values) locals⟩

namespace Machine

variable {σ : Type} (machine : Machine σ)

/-- The events of an execution, as a recorder with the same limit keeps them. -/
def events (depth : UInt64) (code : List Instruction) (values : List Value) (locals : Locals) :
    List Event :=
  ((⟨machine.limit, .recorder⟩ : Machine (Array Event)).execute depth code
    ⟨values, locals, #[]⟩).2.seen.toList

end Machine

def Memory.result (memory : Memory) : Option Stop → Except Fault Outcome × List Value
  | some .trap => (.ok .trapped, memory.values)
  | some (.fault fault) => (.error fault, memory.values)
  | none =>
    match memory.values with
    | v :: rest => (.ok (.value v), rest)
    | [] => (.ok .empty, [])

def Ended (result : Except Fault Outcome) : Prop := ∃ outcome, result = .ok outcome ∧ outcome ≠ .trapped

namespace Memory

variable {memory : Memory} {stop : Option Stop}

theorem ended_iff : Ended (memory.result stop).1 ↔ stop = none := by
  constructor
  · rintro ⟨outcome, answered, untrapped⟩
    cases stop with
    | none => rfl
    | some stop =>
      cases stop with
      | trap => cases answered; exact (untrapped rfl).elim
      | fault fault => cases answered
  · rintro rfl
    obtain ⟨values, locals⟩ := memory
    cases values with
    | nil => exact ⟨.empty, rfl, nofun⟩
    | cons v rest => exact ⟨.value v, rfl, nofun⟩

theorem result_congr {other : Memory} (same : other.values = memory.values) :
    other.result stop = memory.result stop := by
  simp only [result, same]

theorem result_error {fault : Fault} (failed : (memory.result stop).1 = .error fault) :
    stop = some (.fault fault) := by
  cases stop with
  | none =>
    simp only [result] at failed
    split at failed <;> cases failed
  | some stop =>
    cases stop with
    | trap => cases failed
    | fault met => cases failed; rfl

theorem result_ended
    (answered : (∃ v, (memory.result stop).1 = .ok (.value v)) ∨ (memory.result stop).1 = .ok .empty) :
    stop = none := by
  apply ended_iff.mp
  rcases answered with ⟨v, value⟩ | empty
  · exact ⟨_, value, nofun⟩
  · exact ⟨_, empty, nofun⟩

end Memory

namespace Machine

variable {σ : Type} (machine : Machine σ)

theorem execute_tooDeep {depth : UInt64} (deep : machine.limit < depth) (code : List Instruction)
    (state : State σ) :
    machine.execute depth code state = (.error (.depthExceeded machine.limit), state) :=
  if_pos deep

theorem events_tooDeep {depth : UInt64} (deep : machine.limit < depth) (code : List Instruction)
    (values : List Value) (locals : Locals) : machine.events depth code values locals = [] := by
  rw [Machine.events, execute_tooDeep ⟨machine.limit, .recorder⟩ deep]

theorem execute_of_runs {depth : UInt64} {code : List Instruction} {before after : Memory}
    {events : List Event} {stop : Option Stop} (shallow : ¬ machine.limit < depth)
    (run : Runs machine.limit depth 0 code before events stop after) (seen : σ) :
    machine.execute depth code ⟨before.values, before.locals, seen⟩ =
      ((after.result stop).1,
        ⟨(after.result stop).2, after.locals, machine.observer.noticeAll events seen⟩) := by
  rw [execute, if_neg shallow, machine.sequence_of_runs run seen]
  obtain ⟨values, locals⟩ := after
  match stop with
  | some .trap | some (.fault _) => rfl
  | none => cases values <;> rfl

theorem events_of_runs {depth : UInt64} {code : List Instruction} {before after : Memory}
    {events : List Event} {stop : Option Stop} (shallow : ¬ machine.limit < depth)
    (run : Runs machine.limit depth 0 code before events stop after) :
    machine.events depth code before.values before.locals = events := by
  rw [Machine.events, execute_of_runs ⟨machine.limit, .recorder⟩ shallow run]
  simpa using Observer.noticeAll_recorder events #[]

/-- Executing a frame that is not too deep itself is one derivation, which lists the recorded events
and fixes what every observer gets to see. -/
theorem execute_runs {depth : UInt64} (shallow : ¬ machine.limit < depth) (code : List Instruction)
    (values : List Value) (locals : Locals) :
    ∃ stop after,
      Runs machine.limit depth 0 code ⟨values, locals⟩ (machine.events depth code values locals)
        stop after ∧
      ∀ seen, machine.execute depth code ⟨values, locals, seen⟩ =
        ((after.result stop).1, ⟨(after.result stop).2, after.locals,
          machine.observer.noticeAll (machine.events depth code values locals) seen⟩) := by
  obtain ⟨events, stop, after, run⟩ := Runs.exists machine.limit depth 0 code ⟨values, locals⟩
  have recorded := machine.events_of_runs shallow run
  subst recorded
  exact ⟨stop, after, run, machine.execute_of_runs shallow run⟩

theorem run_runs (code : List Instruction) (locals : Locals) :
    ∃ stop after,
      Runs machine.limit 0 0 code ⟨[], locals⟩ (machine.events 0 code [] locals) stop after ∧
      ∀ seen, machine.run code locals seen =
        ((after.result stop).1, ⟨(after.result stop).2, after.locals,
          machine.observer.noticeAll (machine.events 0 code [] locals) seen⟩) :=
  machine.execute_runs (UInt64.not_lt.mpr UInt64.zero_le) code [] locals

end Machine

end FrameMachine
