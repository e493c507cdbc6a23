import FrameMachine.Proofs.Execution

/-! Static nesting and the depth word. A frame counts its depth in 64 bits, so the word of a nested
frame could come round to that of an enclosing one, but only below a limit of the largest word and in
code that is nested 2 ^ 64 levels deep. Wherever that is excluded, a depth tells frames apart. -/

namespace FrameMachine

theorem toNat_succ (depth : UInt64) : (depth + 1).toNat = (depth.toNat + 1) % UInt64.size :=
  UInt64.toNat_add depth 1

theorem toNat_succ_le (depth : UInt64) : (depth + 1).toNat ≤ depth.toNat + 1 := by
  rw [toNat_succ]
  exact Nat.mod_le _ _

namespace Instruction

mutual

/-- The number of frame levels below the frame that an instruction runs in. An empty loop has none. -/
def nesting : Instruction → Nat
  | .loop (first :: rest) => 1 + nestingAll (first :: rest)
  | .setLocal _ (some init) => 1 + nesting init
  | _ => 0

def nestingAll : List Instruction → Nat
  | [] => 0
  | first :: rest => max (nesting first) (nestingAll rest)

end

theorem child?_nesting {instruction : Instruction} {body : List Instruction}
    (child : instruction.child? = some body) : instruction.nesting = 1 + nestingAll body := by
  cases child_of_child? child with
  | body => simp only [nesting]
  | initializer => simp only [nesting, nestingAll, Nat.max_zero]

theorem nestingAll_tail_le (instruction : Instruction) (rest : List Instruction) :
    nestingAll rest ≤ nestingAll (instruction :: rest) := by
  simp only [nestingAll]
  exact Nat.le_max_right _ _

theorem nestingAll_child_lt {instruction : Instruction} {body : List Instruction}
    (child : instruction.child? = some body) (rest : List Instruction) :
    nestingAll body < nestingAll (instruction :: rest) := by
  have deeper := child?_nesting child
  simp only [nestingAll]
  omega

end Instruction

open Instruction

/-- The depth word does not come round while code runs below a limit. -/
def DepthFits (limit : UInt64) (code : List Instruction) : Prop :=
  limit.toNat + 1 < UInt64.size ∨ nestingAll code < UInt64.size

instance (limit : UInt64) (code : List Instruction) : Decidable (DepthFits limit code) :=
  inferInstanceAs (Decidable (_ ∨ _))

namespace DepthFits

variable {limit : UInt64} {instruction : Instruction} {rest : List Instruction}

theorem tail (fits : DepthFits limit (instruction :: rest)) : DepthFits limit rest :=
  fits.imp_right (Nat.lt_of_le_of_lt (nestingAll_tail_le instruction rest))

end DepthFits

/-- The depth word of a frame counts levels exactly, and so do those of the frames below it. -/
structure Room (limit depth : UInt64) (code : List Instruction) : Prop where
  within : depth ≤ limit
  exact : limit.toNat + 1 < UInt64.size ∨ depth.toNat + nestingAll code < UInt64.size

namespace Room

variable {limit depth : UInt64} {instruction : Instruction} {rest body : List Instruction}

theorem outermost {code : List Instruction} (fits : DepthFits limit code) : Room limit 0 code :=
  ⟨UInt64.zero_le, by simpa [DepthFits] using fits⟩

theorem head (room : Room limit depth (instruction :: rest)) : Room limit depth [instruction] := by
  refine ⟨room.within, ?_⟩
  have exact := room.exact
  simp only [nestingAll, Nat.max_zero] at exact ⊢
  omega

theorem tail (room : Room limit depth (instruction :: rest)) : Room limit depth rest := by
  refine ⟨room.within, ?_⟩
  have exact := room.exact
  have flatter := nestingAll_tail_le instruction rest
  omega

theorem next_level (room : Room limit depth (instruction :: rest))
    (child : instruction.child? = some body) : (depth + 1).toNat = depth.toNat + 1 := by
  obtain ⟨within, exact⟩ := room
  have deeper := nestingAll_child_lt child rest
  rw [UInt64.le_iff_toNat_le] at within
  have next := toNat_succ depth
  simp only [UInt64.size] at exact next
  omega

theorem child (room : Room limit depth (instruction :: rest)) (child : instruction.child? = some body)
    (shallow : ¬ limit < depth + 1) : Room limit (depth + 1) body := by
  refine ⟨UInt64.not_lt.mp shallow, ?_⟩
  have deeper := nestingAll_child_lt child rest
  have next := room.next_level child
  have exact := room.exact
  omega

end Room

/-- The event comes from a frame some levels below one at `depth`: no more levels than the code is
nested, and none beyond the limit unless the limit is the largest word. -/
structure Event.Level (limit depth : UInt64) (code : List Instruction) (event : Event) (level : Nat) :
    Prop where
  nested : level ≤ nestingAll code
  word : event.depth.toNat = (depth.toNat + level) % UInt64.size
  limited : limit.toNat + 1 < UInt64.size → depth.toNat + level ≤ limit.toNat

namespace Event.Level

variable {limit depth : UInt64} {instruction : Instruction} {rest body : List Instruction}

theorem own (within : depth ≤ limit) (pc : Nat) (code : List Instruction) :
    Event.Level limit depth code ⟨depth, pc, instruction⟩ 0 := by
  have small := depth.toNat_lt
  rw [UInt64.le_iff_toNat_le] at within
  refine ⟨Nat.zero_le _, ?_, fun _ => within⟩
  simp only [UInt64.size]
  omega

theorem later {event : Event} {level : Nat} (placed : event.Level limit depth rest level) :
    event.Level limit depth (instruction :: rest) level :=
  ⟨Nat.le_trans placed.nested (nestingAll_tail_le instruction rest), placed.word, placed.limited⟩

theorem child {event : Event} {level : Nat} (placed : event.Level limit (depth + 1) body level)
    (child : instruction.child? = some body) (within : depth ≤ limit) :
    event.Level limit depth (instruction :: rest) (level + 1) := by
  obtain ⟨nested, word, limited⟩ := placed
  have next := toNat_succ depth
  rw [UInt64.le_iff_toNat_le] at within
  simp only [UInt64.size] at next word limited
  refine ⟨Nat.lt_of_le_of_lt nested (nestingAll_child_lt child rest), ?_, ?_⟩
  · simp only [UInt64.size]
    omega
  · simp only [UInt64.size]
    omega

end Event.Level

theorem Runs.event_level {limit depth : UInt64} {pc : Nat} {code : List Instruction}
    {before after : Memory} {events : List Event} {stop : Option Stop}
    (run : Runs limit depth pc code before events stop after) (within : depth ≤ limit) :
    ∀ event ∈ events, ∃ level, event.Level limit depth code level := by
  induction run with
  | finished | halted | tooDeep => simp
  | simple _ _ _ ih =>
    intro event member
    rcases List.mem_cons.mp member with rfl | member
    · exact ⟨0, .own within _ _⟩
    · obtain ⟨level, placed⟩ := ih within event member
      exact ⟨level, placed.later⟩
  | childHalted child shallow _ ih | refused child shallow _ _ ih =>
    intro event member
    obtain ⟨level, placed⟩ := ih (UInt64.not_lt.mp shallow) event member
    exact ⟨level + 1, placed.child child within⟩
  | nested child shallow _ _ _ inner ih =>
    intro event member
    rcases List.mem_append.mp member with member | member
    · obtain ⟨level, placed⟩ := inner (UInt64.not_lt.mp shallow) event member
      exact ⟨level + 1, placed.child child within⟩
    · rcases List.mem_cons.mp member with rfl | member
      · exact ⟨0, .own within _ _⟩
      · obtain ⟨level, placed⟩ := ih within event member
        exact ⟨level, placed.later⟩

/-- No event comes from beyond the limit, whatever the words come round to. -/
theorem Runs.event_within {limit depth : UInt64} {pc : Nat} {code : List Instruction}
    {before after : Memory} {events : List Event} {stop : Option Stop}
    (run : Runs limit depth pc code before events stop after) (within : depth ≤ limit) :
    ∀ event ∈ events, event.depth ≤ limit := by
  intro event member
  obtain ⟨level, _, word, limited⟩ := run.event_level within event member
  have small := event.depth.toNat_lt
  rw [UInt64.le_iff_toNat_le]
  simp only [UInt64.size] at word limited
  omega

/-- Where depths are exact, no event comes from above the frame. -/
theorem Runs.event_below {limit depth : UInt64} {pc : Nat} {code : List Instruction}
    {before after : Memory} {events : List Event} {stop : Option Stop}
    (run : Runs limit depth pc code before events stop after) (room : Room limit depth code) :
    ∀ event ∈ events, depth ≤ event.depth := by
  intro event member
  obtain ⟨level, nested, word, limited⟩ := run.event_level room.within event member
  have small := limit.toNat_lt
  have exact := room.exact
  rw [UInt64.le_iff_toNat_le]
  simp only [UInt64.size] at exact word limited
  omega

/-- No event of a child has the depth of the frame that runs it. -/
theorem Runs.child_depth_ne {limit depth : UInt64} {pc : Nat} {instruction : Instruction}
    {rest body : List Instruction} {before after : Memory} {events : List Event} {stop : Option Stop}
    (fits : DepthFits limit (instruction :: rest)) (child : instruction.child? = some body)
    (shallow : ¬ limit < depth + 1) (run : Runs limit (depth + 1) pc body before events stop after) :
    ∀ event ∈ events, event.depth ≠ depth := by
  intro event member same
  obtain ⟨level, nested, word, limited⟩ := run.event_level (UInt64.not_lt.mp shallow) event member
  have deeper := nestingAll_child_lt child rest
  have next := toNat_succ depth
  have small := limit.toNat_lt
  subst same
  simp only [DepthFits, UInt64.size] at fits next word limited
  omega

end FrameMachine
