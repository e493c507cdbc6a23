import FrameMachine.Proofs.Composition
import FrameMachine.Proofs.Footprint

/-! Independent blocks. A block runs in a frame of its own, so all that it shares with its neighbours is
the locals. If neither of two blocks writes a slot that the other reads or writes, each runs as it would
alone, whichever comes first, and the locals afterwards hold what both of them wrote. -/

namespace FrameMachine

namespace Instruction

def Writes (code : List Instruction) (position : Nat) : Prop :=
  ∃ part ∈ partsAll code, part.target? = some position

/-- Neither code assigns a slot that the other reads or assigns. -/
structure Independent (first second : List Instruction) : Prop where
  forward : ∀ position, Writes first position → ¬ Reads second position ∧ ¬ Writes second position
  backward : ∀ position, Writes second position → ¬ Reads first position ∧ ¬ Writes first position

variable {body : List Instruction} {position : Nat}

private theorem exists_part_block {property : Instruction → Prop} (other : ¬ property (.loop body))
    (found : ∃ part ∈ partsAll [.loop body], property part) : ∃ part ∈ partsAll body, property part := by
  obtain ⟨part, member, holds⟩ := found
  simp only [partsAll, parts, List.append_nil, List.mem_cons] at member
  rcases member with rfl | member
  · exact (other holds).elim
  · exact ⟨part, member, holds⟩

theorem reads_block (reads : Reads [.loop body] position) : Reads body position :=
  exists_part_block nofun reads

theorem writes_block (writes : Writes [.loop body] position) : Writes body position :=
  exists_part_block nofun writes

end Instruction

open Instruction

namespace Runs

variable {limit depth : UInt64} {pc : Nat} {code body : List Instruction} {before after : Memory}
  {events : List Event} {stop : Option Stop}

theorem event_mem (run : Runs limit depth pc code before events stop after) :
    ∀ event ∈ events, event.instruction ∈ partsAll code := by
  induction run with
  | finished | halted | tooDeep => simp
  | simple _ _ _ ih =>
    intro event member
    rcases List.mem_cons.mp member with rfl | later
    · exact mem_partsAll_head
    · exact mem_partsAll_tail (ih event later)
  | childHalted child _ _ ih | refused child _ _ _ ih =>
    intro event member
    exact mem_partsAll_child child (ih event member)
  | nested child _ _ _ _ inner ih =>
    intro event member
    rcases List.mem_append.mp member with within | later
    · exact mem_partsAll_child child (inner event within)
    · rcases List.mem_cons.mp later with rfl | later
      · exact mem_partsAll_head
      · exact mem_partsAll_tail (ih event later)

theorem writes_of_written {position : Nat} (run : Runs limit depth pc code before events stop after)
    (written : Written events position) : Writes code position := by
  obtain ⟨event, member, target⟩ := written
  exact ⟨event.instruction, run.event_mem event member, target⟩

theorem block_values (run : Runs limit depth pc [.loop body] before events none after) :
    after.values = before.values := by
  cases run with
  | simple leaf completes remaining =>
    cases remaining
    cases completes_of_effect leaf completes
    rfl
  | nested _ _ _ _ remaining =>
    cases remaining
    rfl

/-- A block that has run to its end is not noticed by a block that reads nothing it wrote. Of the locals
that both leave, each part is as the block leaves it that alone may have written it. -/
theorem block_after_block {first second : List Instruction} {middle last : Memory}
    {others : List Event} {ending : Option Stop}
    (run : Runs limit depth pc [.loop first] before events none middle)
    (next : Runs limit depth (pc + 1) [.loop second] before others ending last)
    (unread : ∀ position, Writes first position → ¬ Reads second position) :
    ∃ after, Runs limit depth pc [.loop first, .loop second] before (events ++ others) ending after ∧
      after.values = last.values ∧
      ∀ position,
        (¬ Writes second position →
          after.locals.slots[position]? = middle.locals.slots[position]?) ∧
        (¬ Writes first position →
          after.locals.slots[position]? = last.locals.slots[position]?) := by
  have agree : before.locals.Agree (fun position => ¬ Written events position) middle.locals :=
    ⟨run.size.symm, fun position unwritten => (run.unwritten unwritten).symm⟩
  have unwritten : ∀ position, Reads [.loop second] position → ¬ Written events position := by
    intro position reads written
    exact unread position (writes_block (run.writes_of_written written)) (reads_block reads)
  obtain ⟨after, twin, values, agreed⟩ := next.agree agree unwritten
  rw [← run.block_values] at twin
  refine ⟨after, run.append twin, values, ?_⟩
  intro position
  constructor
  · intro foreign
    apply twin.unwritten
    intro written
    exact foreign (writes_block (twin.writes_of_written written))
  · intro foreign
    apply (agreed.slots position (.inl ?_)).symm
    intro written
    exact foreign (writes_block (run.writes_of_written written))

end Runs

namespace Machine

variable {σ : Type}

theorem run_two_blocks (machine : Machine σ) {first second : List Instruction} (locals : Locals)
    (seen : σ) (unread : ∀ position, Writes first position → ¬ Reads second position) :
    let both := machine.run [.loop first, .loop second] locals seen
    let one := machine.run [.loop first] locals seen
    let other := machine.run [.loop second] locals seen
    (both.1 = .ok .empty ↔ one.1 = .ok .empty ∧ other.1 = .ok .empty) ∧
    (both.1 = .ok .empty → ∀ position,
      (¬ Writes second position →
        both.2.locals.slots[position]? = one.2.locals.slots[position]?) ∧
      (¬ Writes first position →
        both.2.locals.slots[position]? = other.2.locals.slots[position]?)) := by
  have outermost : ¬ machine.limit < 0 := UInt64.not_lt.mpr UInt64.zero_le
  obtain ⟨stop, middle, run, ran⟩ := machine.run_runs [.loop first] locals
  obtain ⟨ending, last, next, ended⟩ := machine.run_runs [.loop second] locals
  simp only [ran seen, ended seen]
  cases stop with
  | some stop =>
    have halted := run.append_of_stopped [.loop second]
    have both : machine.run [.loop first, .loop second] locals seen = _ :=
      machine.execute_of_runs outermost halted seen
    have unanswered : (middle.result (some stop)).1 ≠ .ok .empty := by
      cases stop <;> nofun
    simp only [both, unanswered, false_and, false_implies, and_self]
  | none =>
    obtain ⟨renumbered, numbered, _⟩ := next.renumber 1
    obtain ⟨after, whole, values, slots⟩ := run.block_after_block numbered unread
    have both : machine.run [.loop first, .loop second] locals seen = _ :=
      machine.execute_of_runs outermost whole seen
    have blank : (middle.result none).1 = .ok .empty := by
      simp only [Memory.result, run.block_values]
    simp only [both, blank, Memory.result_congr values, true_and]
    exact fun _ => slots

/-- Independent blocks commute. Two of them end with nothing to answer, in either order, exactly if each
does so alone on the same locals; and then both orders leave the same locals. -/
theorem run_blocks_commute (machine : Machine σ) {first second : List Instruction}
    (independent : Independent first second) (locals : Locals) (seen : σ) :
    let forward := machine.run [.loop first, .loop second] locals seen
    let backward := machine.run [.loop second, .loop first] locals seen
    let alone (body : List Instruction) := (machine.run [.loop body] locals seen).1
    (forward.1 = .ok .empty ↔ alone first = .ok .empty ∧ alone second = .ok .empty) ∧
    (backward.1 = .ok .empty ↔ alone first = .ok .empty ∧ alone second = .ok .empty) ∧
    (forward.1 = .ok .empty → forward.2.locals = backward.2.locals) := by
  intro forward backward alone
  obtain ⟨ends, slots⟩ := machine.run_two_blocks locals seen
    fun position writes => (independent.forward position writes).1
  obtain ⟨endsBack, slotsBack⟩ := machine.run_two_blocks locals seen
    fun position writes => (independent.backward position writes).1
  refine ⟨ends, endsBack.trans and_comm, ?_⟩
  intro empty
  have slots := slots empty
  have slotsBack := slotsBack (endsBack.mpr (ends.mp empty).symm)
  apply congrArg Locals.mk
  apply List.ext_getElem?
  intro position
  by_cases writes : Writes first position
  · have foreign := (independent.forward position writes).2
    exact ((slots position).1 foreign).trans ((slotsBack position).2 foreign).symm
  · exact ((slots position).2 writes).trans ((slotsBack position).1 writes).symm

/-- Both blocks read one slot, and each writes another. -/
theorem run_blocks_commute_shared_source :
    let machine : Machine Unit := ⟨3, .silent⟩
    let locals : Locals := ⟨[none, some (.i32 4), some (.i64 6)]⟩
    let first : List Instruction :=
      [.setLocal (some 0) (some (.getLocal (some 2))), .getLocal (some 0)]
    let second : List Instruction :=
      [.loop [.setLocal (some 1) (some (.const (some 5)))], .getLocal (some 2)]
    let forward := machine.run [.loop first, .loop second] locals ()
    let backward := machine.run [.loop second, .loop first] locals ()
    Independent first second ∧ forward.1 = .ok .empty ∧ backward.1 = .ok .empty ∧
      forward.2.locals = backward.2.locals := by
  intro machine locals first second forward backward
  have independent : Independent first second := by
    constructor <;>
      simp [Writes, Reads, first, second, partsAll, parts, source?, target?]
  obtain ⟨ends, endsBack, same⟩ := machine.run_blocks_commute independent locals ()
  have empty := ends.mpr ⟨rfl, rfl⟩
  exact ⟨independent, empty, endsBack.mpr ⟨rfl, rfl⟩, same empty⟩

end Machine

end FrameMachine
