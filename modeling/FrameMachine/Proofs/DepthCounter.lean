import FrameMachine.Proofs.Nesting

/-! The depth counter. Every frame that an instruction calls for is given a depth, and only then is that
depth compared with the limit. The calls of an execution are read off a machine that lists them on its
way; without the list it is the machine itself. Below a limit that is not the largest word the counter is
exact, and so it is wherever the code is not nested deep enough to count that far. Under the largest limit
a frame at the largest depth gives the next one depth 0, and the limit holds nothing back. -/

namespace FrameMachine

/-- A frame calls for another: the depth of the one, and the depth that the other is given. -/
structure Call where
  caller : UInt64
  callee : UInt64
deriving DecidableEq

namespace Machine

variable {σ : Type}

def nestedWithCalls (machine : Machine σ) (call : Call) (state : State σ)
    (body : State σ → Progress σ × List Call) (resume : List Value → State σ → Progress σ) :
    Progress σ × List Call :=
  (machine.nested call.callee state (fun inner => (body inner).1) resume,
    call :: if machine.limit < call.callee then [] else (body { state with values := [] }).2)

mutual

/-- Executes one instruction and lists the calls it makes, in order. -/
def stepWithCalls (machine : Machine σ) (depth : UInt64) :
    Instruction → State σ → Progress σ × List Call
  | .loop body, state =>
    if body.isEmpty then (.ran state, [])
    else
      machine.nestedWithCalls ⟨depth, depth + 1⟩ state
        (fun inner => machine.sequenceWithCalls (depth + 1) 0 body inner) (fun _ outer => .ran outer)
  | .setLocal (some index) (some init), state =>
    machine.nestedWithCalls ⟨depth, depth + 1⟩ state
      (fun inner =>
        let stepped := machine.stepWithCalls (depth + 1) init inner
        (stepped.1.andThen fun after => .ran (machine.report (depth + 1) 0 init after), stepped.2))
      (fun values outer =>
        match values with
        | v :: _ => outer.assign index v
        | [] => outer.fail (.emptyInitializer index))
  | instruction, state => (machine.step depth instruction state, [])

def sequenceWithCalls (machine : Machine σ) (depth : UInt64) (pc : Nat) :
    List Instruction → State σ → Progress σ × List Call
  | [], state => (.ran state, [])
  | first :: rest, state =>
    let stepped := machine.stepWithCalls depth first state
    match stepped.1 with
    | .stopped stop after => (.stopped stop after, stepped.2)
    | .ran after =>
      let remaining := machine.sequenceWithCalls depth (pc + 1) rest (machine.report depth pc first after)
      (remaining.1, stepped.2 ++ remaining.2)

end

mutual

/-- Listing the calls changes nothing: the depths listed are those that the machine works with. -/
theorem stepWithCalls_fst (machine : Machine σ) (depth : UInt64) (instruction : Instruction)
    (state : State σ) :
    (machine.stepWithCalls depth instruction state).1 = machine.step depth instruction state := by
  match instruction with
  | .loop body =>
    simp only [stepWithCalls, step]
    split
    · rfl
    · simp only [nestedWithCalls, sequenceWithCalls_fst]
  | .setLocal (some index) (some init) =>
    simp only [stepWithCalls, nestedWithCalls, stepWithCalls_fst]
    rfl
  | .setLocal none _ | .setLocal (some _) none => rfl
  | .const _ | .nop | .trap | .getLocal _ | .binary _ | .unknown => rfl
termination_by structural instruction

theorem sequenceWithCalls_fst (machine : Machine σ) (depth : UInt64) (pc : Nat)
    (code : List Instruction) (state : State σ) :
    (machine.sequenceWithCalls depth pc code state).1 = machine.sequence depth pc code state := by
  match code with
  | [] => rfl
  | first :: rest =>
    simp only [sequenceWithCalls, sequence, stepWithCalls_fst]
    cases machine.step depth first state with
    | stopped stop after => rfl
    | ran after => exact sequenceWithCalls_fst machine depth (pc + 1) rest _
termination_by structural code

end

def calls (machine : Machine σ) (depth : UInt64) (code : List Instruction) (values : List Value)
    (locals : Locals) : List Call :=
  if machine.limit < depth then []
  else
    ((⟨machine.limit, .silent⟩ : Machine Unit).sequenceWithCalls depth 0 code ⟨values, locals, ()⟩).2

end Machine

open Instruction

structure Call.Counted (limit depth : UInt64) (call : Call) : Prop where
  next : call.callee.toNat = call.caller.toNat + 1
  below : depth ≤ call.caller
  within : call.caller ≤ limit

namespace Call.Counted

variable {limit depth : UInt64} {call : Call}

theorem callee_below (counted : call.Counted limit depth) : depth ≤ call.callee := by
  have next := counted.next
  have below := counted.below
  rw [UInt64.le_iff_toNat_le] at below ⊢
  omega

theorem outer (counted : call.Counted limit (depth + 1))
    (next : (depth + 1).toNat = depth.toNat + 1) : call.Counted limit depth := by
  refine ⟨counted.next, ?_, counted.within⟩
  have below := counted.below
  rw [UInt64.le_iff_toNat_le] at below ⊢
  omega

end Call.Counted

namespace Machine

variable {σ : Type} (machine : Machine σ)

theorem nestedWithCalls_counted {depth : UInt64} {instruction : Instruction}
    {body : List Instruction} {state : State σ} {inner : State σ → Progress σ × List Call}
    {resume : List Value → State σ → Progress σ}
    (room : Room machine.limit depth [instruction]) (child : instruction.child? = some body)
    (counts : Room machine.limit (depth + 1) body →
      ∀ call ∈ (inner { state with values := [] }).2, call.Counted machine.limit (depth + 1)) :
    ∀ call ∈ (machine.nestedWithCalls ⟨depth, depth + 1⟩ state inner resume).2,
      call.Counted machine.limit depth := by
  have next := room.next_level child
  simp only [nestedWithCalls, List.forall_mem_cons]
  refine ⟨⟨next, UInt64.le_refl depth, room.within⟩, ?_⟩
  split
  · simp
  next shallow =>
    intro call member
    exact (counts (room.child child shallow) call member).outer next

mutual

theorem stepWithCalls_counted (depth : UInt64) (instruction : Instruction) (state : State σ)
    (room : Room machine.limit depth [instruction]) :
    ∀ call ∈ (machine.stepWithCalls depth instruction state).2, call.Counted machine.limit depth := by
  match instruction with
  | .loop [] => simp [stepWithCalls]
  | .loop (first :: rest) =>
    apply machine.nestedWithCalls_counted room rfl
    exact sequenceWithCalls_counted (depth + 1) 0 (first :: rest) _
  | .setLocal (some index) (some init) =>
    apply machine.nestedWithCalls_counted room rfl
    exact stepWithCalls_counted (depth + 1) init _
  | .setLocal none _ | .setLocal (some _) none => simp [stepWithCalls]
  | .const _ | .nop | .trap | .getLocal _ | .binary _ | .unknown => simp [stepWithCalls]
termination_by structural instruction

theorem sequenceWithCalls_counted (depth : UInt64) (pc : Nat) (code : List Instruction) (state : State σ)
    (room : Room machine.limit depth code) :
    ∀ call ∈ (machine.sequenceWithCalls depth pc code state).2, call.Counted machine.limit depth := by
  match code with
  | [] => simp [sequenceWithCalls]
  | first :: rest =>
    have own := stepWithCalls_counted depth first state room.head
    simp only [sequenceWithCalls]
    split
    · exact own
    · exact List.forall_mem_append.mpr ⟨own, sequenceWithCalls_counted depth (pc + 1) rest _ room.tail⟩
termination_by structural code

end

/-- The depths of the frames that an execution enters: its own, and those that it calls for and that are
not too deep. -/
def frames (depth : UInt64) (code : List Instruction) (values : List Value) (locals : Locals) :
    List UInt64 :=
  if machine.limit < depth then []
  else depth :: ((machine.calls depth code values locals).map Call.callee).filter (· ≤ machine.limit)

/-- The depths of an execution are those of a count without bounds. A frame that is called for is given
exactly one more than its caller, and whatever executes or was executed did so between the depth of the
first frame and the limit. -/
structure CountsDepth (depth : UInt64) (code : List Instruction) (values : List Value)
    (locals : Locals) : Prop where
  next : ∀ call ∈ machine.calls depth code values locals, call.callee.toNat = call.caller.toNat + 1
  frames : ∀ frame ∈ machine.frames depth code values locals, depth ≤ frame ∧ frame ≤ machine.limit
  events : ∀ event ∈ machine.events depth code values locals,
    depth ≤ event.depth ∧ event.depth ≤ machine.limit

theorem countsDepth_of_room {depth : UInt64} {code : List Instruction}
    (room : Room machine.limit depth code) (values : List Value) (locals : Locals) :
    machine.CountsDepth depth code values locals := by
  have shallow : ¬ machine.limit < depth := UInt64.not_lt.mpr room.within
  have counted : ∀ call ∈ machine.calls depth code values locals, call.Counted machine.limit depth := by
    rw [calls, if_neg shallow]
    exact sequenceWithCalls_counted ⟨machine.limit, .silent⟩ depth 0 code _ room
  refine ⟨fun call made => (counted call made).next, ?_, ?_⟩
  · rw [Machine.frames, if_neg shallow]
    intro frame member
    rcases List.mem_cons.mp member with rfl | nested
    · exact ⟨UInt64.le_refl _, room.within⟩
    · obtain ⟨given, entered⟩ := List.mem_filter.mp nested
      obtain ⟨call, made, rfl⟩ := List.mem_map.mp given
      exact ⟨(counted call made).callee_below, of_decide_eq_true entered⟩
  · intro event member
    obtain ⟨stop, after, run, _⟩ := machine.execute_runs shallow code values locals
    exact ⟨run.event_below room event member, run.event_within room.within event member⟩

theorem countsDepth_of_tooDeep {depth : UInt64} (deep : machine.limit < depth)
    (code : List Instruction) (values : List Value) (locals : Locals) :
    machine.CountsDepth depth code values locals := by
  refine ⟨?_, ?_, ?_⟩
  · simp [calls, deep]
  · simp [Machine.frames, deep]
  · simp [machine.events_tooDeep deep]

/-- A block is called for from whatever depth its frame has. -/
theorem call_block {depth : UInt64} (within : depth ≤ machine.limit) (values : List Value)
    (locals : Locals) : ⟨depth, depth + 1⟩ ∈ machine.calls depth [.loop [.nop]] values locals := by
  rw [calls, if_neg (UInt64.not_lt.mpr within)]
  simp only [sequenceWithCalls]
  split
  · exact List.mem_cons_self
  · exact List.mem_append_left _ List.mem_cons_self

/-- When depths are counted without coming round. The calls are those that the machine makes: listing
them changes nothing. A limit keeps the count exact in every execution exactly if it is not the largest
word; and under any limit it is exact if the depth and the nesting of the code together fit a word. -/
theorem depth_counted_iff :
    (∀ depth pc code state,
      (machine.sequenceWithCalls depth pc code state).1 = machine.sequence depth pc code state) ∧
    ((∀ depth code values locals, machine.CountsDepth depth code values locals) ↔
      machine.limit.toNat + 1 < UInt64.size) ∧
    ∀ depth code values locals, depth.toNat + nestingAll code < UInt64.size →
      machine.CountsDepth depth code values locals := by
  have counted : ∀ depth code values locals,
      machine.limit.toNat + 1 < UInt64.size ∨ depth.toNat + nestingAll code < UInt64.size →
      machine.CountsDepth depth code values locals := by
    intro depth code values locals fits
    by_cases deep : machine.limit < depth
    · exact machine.countsDepth_of_tooDeep deep code values locals
    · exact machine.countsDepth_of_room ⟨UInt64.not_lt.mp deep, fits⟩ values locals
  refine ⟨machine.sequenceWithCalls_fst, ⟨?_, ?_⟩, ?_⟩
  · intro counts
    have called := machine.call_block (UInt64.le_refl machine.limit) [] ⟨[]⟩
    have next : (machine.limit + 1).toNat = machine.limit.toNat + 1 :=
      (counts machine.limit [.loop [.nop]] [] ⟨[]⟩).next _ called
    have word := (machine.limit + 1).toNat_lt
    simp only [UInt64.size]
    omega
  · intro small depth code values locals
    exact counted depth code values locals (.inl small)
  · intro depth code values locals fits
    exact counted depth code values locals (.inr fits)

/-- Two levels below the largest limit there is room for two more frames. -/
theorem depth_counted_iff_last_levels :
    let machine : Machine Unit := ⟨18446744073709551615, .silent⟩
    let code : List Instruction := [.loop [.setLocal (some 0) (some (.const (some 7)))]]
    (18446744073709551613 : UInt64).toNat + nestingAll code < UInt64.size ∧
    machine.frames 18446744073709551613 code [] ⟨[none]⟩ =
      [18446744073709551613, 18446744073709551614, 18446744073709551615] ∧
    machine.CountsDepth 18446744073709551613 code [] ⟨[none]⟩ := by
  intro machine code
  have fits : (18446744073709551613 : UInt64).toNat + nestingAll code < UInt64.size := by decide
  exact ⟨fits, rfl, machine.depth_counted_iff.2.2 18446744073709551613 code [] ⟨[none]⟩ fits⟩

/-- From the largest depth the next one is 0, and that is within every limit. -/
theorem depth_counted_iff_wrapped :
    let machine : Machine Unit := ⟨18446744073709551615, .silent⟩
    let code : List Instruction := [.loop [.nop]]
    (machine.execute 18446744073709551615 code ⟨[], ⟨[]⟩, ()⟩).1 = .ok .empty ∧
    machine.calls 18446744073709551615 code [] ⟨[]⟩ = [⟨18446744073709551615, 0⟩] ∧
    machine.events 18446744073709551615 code [] ⟨[]⟩ =
      [⟨0, 0, .nop⟩, ⟨18446744073709551615, 0, .loop [.nop]⟩] ∧
    ¬ machine.CountsDepth 18446744073709551615 code [] ⟨[]⟩ := by
  intro machine code
  have called : machine.calls 18446744073709551615 code [] ⟨[]⟩ = [⟨18446744073709551615, 0⟩] := rfl
  refine ⟨rfl, called, rfl, ?_⟩
  intro counted
  have next := counted.next ⟨18446744073709551615, 0⟩ (by simp [called])
  exact absurd next (by decide)

end Machine

end FrameMachine
