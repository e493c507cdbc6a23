import FrameMachine.Proofs.StoreInvariant

/-! The slots that matter. Code can tell two stores apart only by the slots that it reads, so over
stores that agree there it runs the same way. A slot changes only where a completed assignment names
it, and both stores get the same value then: they agree on that slot from there on. -/

namespace FrameMachine

namespace Instruction

def source? : Instruction → Option Nat
  | .getLocal (some index) => some index.toNat
  | _ => none

def target? : Instruction → Option Nat
  | .setLocal (some index) _ => some index.toNat
  | _ => none

def Reads (code : List Instruction) (position : Nat) : Prop :=
  ∃ part ∈ partsAll code, part.source? = some position

instance (code : List Instruction) (position : Nat) : Decidable (Reads code position) :=
  inferInstanceAs (Decidable (∃ part ∈ partsAll code, part.source? = some position))

namespace Reads

variable {instruction : Instruction} {rest body : List Instruction} {position : Nat}

theorem head (source : instruction.source? = some position) : Reads (instruction :: rest) position :=
  ⟨instruction, mem_partsAll_head, source⟩

theorem tail (reads : Reads rest position) : Reads (instruction :: rest) position := by
  obtain ⟨part, member, source⟩ := reads
  exact ⟨part, mem_partsAll_tail member, source⟩

theorem child (reads : Reads body position) (child : instruction.child? = some body) :
    Reads (instruction :: rest) position := by
  obtain ⟨part, member, source⟩ := reads
  exact ⟨part, mem_partsAll_child child member, source⟩

end Reads

end Instruction

open Instruction

def Written (events : List Event) (position : Nat) : Prop :=
  ∃ event ∈ events, event.instruction.target? = some position

instance (events : List Event) (position : Nat) : Decidable (Written events position) :=
  inferInstanceAs (Decidable (∃ event ∈ events, event.instruction.target? = some position))

theorem written_cons {event : Event} {events : List Event} {position : Nat} :
    Written (event :: events) position ↔
      event.instruction.target? = some position ∨ Written events position := by
  simp only [Written, List.mem_cons, or_and_right, exists_or, exists_eq_left]

theorem written_append {first last : List Event} {position : Nat} :
    Written (first ++ last) position ↔ Written first position ∨ Written last position := by
  simp only [Written, List.mem_append, or_and_right, exists_or]

namespace Locals

/-- An event changes at most the slot it writes. -/
theorem replay_elsewhere {locals : Locals} {event : Event} {position : Nat}
    (elsewhere : event.instruction.target? ≠ some position) :
    (locals.replay event).slots[position]? = locals.slots[position]? := by
  unfold replay
  split
  next same =>
    rw [same] at elsewhere
    exact List.getElem?_set_ne fun equal => elsewhere (congrArg some equal)
  next same =>
    rw [same] at elsewhere
    exact List.getElem?_set_ne fun equal => elsewhere (congrArg some equal)
  next => rfl

theorem replayAll_unwritten {locals : Locals} {events : List Event} {position : Nat}
    (unwritten : ¬ Written events position) :
    (locals.replayAll events).slots[position]? = locals.slots[position]? := by
  induction events generalizing locals with
  | nil => rfl
  | cons event events ih =>
    rw [written_cons, not_or] at unwritten
    rw [replayAll_cons, ih unwritten.2, replay_elsewhere unwritten.1]

/-- Two stores of one size hold the same, or both nothing, in each of some slots. -/
structure Agree (on : Nat → Prop) (first second : Locals) : Prop where
  size : first.size = second.size
  slots : ∀ position, on position → first.slots[position]? = second.slots[position]?

namespace Agree

variable {on : Nat → Prop} {first second : Locals}

theorem mono {fewer : Nat → Prop} (agree : first.Agree on second)
    (within : ∀ position, fewer position → on position) : first.Agree fewer second :=
  ⟨agree.size, fun position chosen => agree.slots position (within position chosen)⟩

theorem mono_unwritten (agree : first.Agree on second) :
    first.Agree (fun position => on position ∨ Written [] position) second := by
  apply agree.mono
  rintro position (chosen | ⟨event, member, _⟩)
  · exact chosen
  · cases member

theorem get (agree : first.Agree on second) {index : UInt64} (chosen : on index.toNat) :
    second.get index = first.get index := by
  simp only [Locals.get, agree.slots _ chosen, agree.size]

theorem set_error (agree : first.Agree on second) {index : UInt64} {v : Value} {fault : Fault}
    (refused : first.set index v = .error fault) : second.set index v = .error fault := by
  unfold Locals.set at refused ⊢
  rw [agree.size] at refused
  split at refused
  next => cases refused
  next outside => rwa [if_neg outside]

/-- The same write to both stores adds its slot to those they agree on. -/
theorem set_ok (agree : first.Agree on second) {index : UInt64} {v : Value} {locals : Locals}
    (written : first.set index v = .ok locals) :
    ∃ other, second.set index v = .ok other ∧
      locals.Agree (fun position => on position ∨ some index.toNat = some position) other := by
  obtain ⟨inside, rfl⟩ := set_eq_ok written
  have size : first.slots.length = second.slots.length := agree.size
  refine ⟨_, if_pos (agree.size ▸ inside), ?_, ?_⟩
  · simpa only [Locals.size, List.length_set] using size
  · intro position chosen
    simp only [List.getElem?_set, size]
    split
    next => rfl
    next elsewhere =>
      rcases chosen with chosen | same
      · exact agree.slots position chosen
      · exact (elsewhere (Option.some.inj same)).elim

end Agree

end Locals

namespace Instruction

variable {on : Nat → Prop} {first second : Locals} {values : List Value} {instruction : Instruction}
  {body : List Instruction}

theorem effect_agree (memory : Memory) (agree : memory.locals.Agree on second)
    (chosen : ∀ position, instruction.source? = some position → on position) :
    instruction.effect ⟨memory.values, second⟩ = instruction.effect memory := by
  cases instruction with
  | getLocal index =>
    cases index with
    | none => rfl
    | some index => simp only [effect, agree.get (chosen _ rfl)]
  | const value => cases value <;> rfl
  | setLocal index init => cases index <;> cases init <;> rfl
  | nop | loop | trap | binary | unknown => rfl

theorem Completes.target?_eq_none {memory : Memory} (completes : instruction.Completes memory values) :
    instruction.target? = none := by
  cases completes <;> rfl

theorem finish_agree_error {fault : Fault} (child : instruction.child? = some body)
    (agree : first.Agree on second) (fails : instruction.finish ⟨values, first⟩ = .error fault) :
    instruction.finish ⟨values, second⟩ = .error fault := by
  cases child_of_child? child with
  | body => cases fails
  | initializer =>
    cases values with
    | nil => exact fails
    | cons v rest => exact agree.set_error fails

theorem finish_agree {locals : Locals} (child : instruction.child? = some body)
    (agree : first.Agree on second) (completes : instruction.finish ⟨values, first⟩ = .ok locals) :
    ∃ other, instruction.finish ⟨values, second⟩ = .ok other ∧
      locals.Agree (fun position => on position ∨ instruction.target? = some position) other := by
  cases child_of_child? child with
  | body =>
    cases completes
    refine ⟨second, rfl, agree.mono ?_⟩
    rintro position (chosen | none)
    · exact chosen
    · cases none
  | initializer =>
    cases values with
    | nil => cases completes
    | cons v rest => exact agree.set_ok completes

end Instruction

theorem Runs.unwritten {limit depth : UInt64} {pc : Nat} {code : List Instruction}
    {before after : Memory} {events : List Event} {stop : Option Stop} {position : Nat}
    (run : Runs limit depth pc code before events stop after) (unwritten : ¬ Written events position) :
    after.locals.slots[position]? = before.locals.slots[position]? := by
  rw [run.replays, Locals.replayAll_unwritten unwritten]

/-- Over a store that agrees with its own on all that the code reads, an execution has a twin: the same
events, the same end and the same values, and stores that also agree on all that was written. -/
theorem Runs.agree {limit depth : UInt64} {pc : Nat} {code : List Instruction}
    {before after : Memory} {events : List Event} {stop : Option Stop} {on : Nat → Prop}
    {other : Locals} (run : Runs limit depth pc code before events stop after)
    (agree : before.locals.Agree on other) (reads : ∀ position, Reads code position → on position) :
    ∃ twin, Runs limit depth pc code ⟨before.values, other⟩ events stop twin ∧
      twin.values = after.values ∧
      after.locals.Agree (fun position => on position ∨ Written events position) twin.locals := by
  -- Where an assignment completes, its slot joins those agreed on; the rest of the code runs on that.
  induction run generalizing on other with
  | finished => exact ⟨_, .finished, rfl, agree.mono_unwritten⟩
  | simple leaf completes _ ih =>
    have same := effect_agree _ agree fun position source => reads position (.head source)
    obtain ⟨twin, remaining, values, agreed⟩ := ih agree fun position read => reads position read.tail
    refine ⟨twin, .simple leaf (same.trans completes) remaining, values, agreed.mono ?_⟩
    intro position chosen
    rw [written_cons, completes_of_effect leaf completes |>.target?_eq_none] at chosen
    simpa using chosen
  | halted leaf stops =>
    have same := effect_agree _ agree fun position source => reads position (.head source)
    exact ⟨_, .halted leaf (same.trans stops), rfl, agree.mono_unwritten⟩
  | tooDeep child deep => exact ⟨_, .tooDeep child deep, rfl, agree.mono_unwritten⟩
  | childHalted child shallow _ ih =>
    obtain ⟨twin, nested, _, agreed⟩ := ih agree fun position read => reads position (read.child child)
    exact ⟨_, .childHalted child shallow nested, rfl, agreed⟩
  | refused child shallow _ fails ih =>
    obtain ⟨⟨_, locals⟩, nested, rfl, agreed⟩ :=
      ih agree fun position read => reads position (read.child child)
    have refuses := finish_agree_error child agreed fails
    exact ⟨_, .refused child shallow nested refuses, rfl, agreed⟩
  | nested child shallow _ completes _ inner ih =>
    obtain ⟨⟨_, locals⟩, nested, rfl, agreed⟩ :=
      inner agree fun position read => reads position (read.child child)
    obtain ⟨assigned, finishes, agreed⟩ := finish_agree child agreed completes
    obtain ⟨twin, remaining, values, agreed⟩ :=
      ih agreed fun position read => .inl (.inl (reads position read.tail))
    refine ⟨twin, .nested child shallow nested finishes remaining, values, agreed.mono ?_⟩
    intro position chosen
    simpa only [written_append, written_cons, or_assoc] using chosen

namespace Machine

variable {σ : Type}

/-- A run depends only on the slots that its code reads. Over two stores that agree on them the result
and the events are the same, and afterwards the stores agree on them and on every slot that a reported
assignment names. A slot that none names is left as it was, in each store. -/
theorem run_agree (machine : Machine σ) (code : List Instruction) {first second : Locals} (seen : σ)
    (agree : first.Agree (Reads code) second) :
    let events := machine.events 0 code [] first
    let (result, left) := machine.run code first seen
    let (otherResult, right) := machine.run code second seen
    otherResult = result ∧ right.seen = left.seen ∧
    machine.events 0 code [] second = events ∧
    left.locals.Agree (fun position => Reads code position ∨ Written events position) right.locals ∧
    ∀ position, ¬ Written events position →
      left.locals.slots[position]? = first.slots[position]? ∧
      right.locals.slots[position]? = second.slots[position]? := by
  have outermost : ¬ machine.limit < 0 := UInt64.not_lt.mpr UInt64.zero_le
  obtain ⟨stop, after, run, ran⟩ := machine.run_runs code first
  obtain ⟨other, twin, same, agreed⟩ := run.agree agree fun _ read => read
  have otherRan : machine.run code second seen = _ := machine.execute_of_runs outermost twin seen
  have events := machine.events_of_runs outermost twin
  simp only [ran seen, otherRan]
  refine ⟨?_, trivial, events, agreed, ?_⟩
  · rw [Memory.result_congr same]
  · intro position unwritten
    exact ⟨run.unwritten unwritten, twin.unwritten unwritten⟩

theorem run_agree_copied_slot :
    let machine : Machine Unit := ⟨2, .silent⟩
    let first : Locals := ⟨[some (.i32 3), some (.i64 8), none]⟩
    let second : Locals := ⟨[some (.i32 3), none, some (.i32 1)]⟩
    let code : List Instruction :=
      [.loop [.setLocal (some 1) (some (.getLocal (some 0)))], .getLocal (some 0), .trap]
    let events := machine.events 0 code [] first
    let (result, left) := machine.run code first ()
    let (otherResult, right) := machine.run code second ()
    first.Agree (Reads code) second ∧ otherResult = result ∧
      machine.events 0 code [] second = events ∧
      left.locals.Agree (fun position => Reads code position ∨ Written events position)
        right.locals ∧
      ¬ Written events 2 ∧ left.locals.slots[2]? = some none ∧
      right.locals.slots[2]? = some (some (.i32 1)) := by
  intro machine first second code events
  have agree : first.Agree (Reads code) second := by
    refine ⟨rfl, ?_⟩
    rintro position ⟨part, member, source⟩
    have only : position = 0 := by
      simp only [code, partsAll, parts, List.append_nil, List.cons_append, List.nil_append,
        List.mem_cons, List.not_mem_nil, or_false] at member
      rcases member with rfl | rfl | rfl | rfl | rfl <;> cases source <;> rfl
    subst only
    rfl
  have unwritten : ¬ Written events 2 := by decide
  obtain ⟨result, _, same, agreed, kept⟩ := machine.run_agree code () agree
  obtain ⟨left, right⟩ := kept 2 unwritten
  exact ⟨agree, result, same, agreed, unwritten, left, right⟩

end Machine

end FrameMachine
