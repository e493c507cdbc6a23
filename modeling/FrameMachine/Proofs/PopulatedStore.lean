import FrameMachine.Proofs.FaultCause
import FrameMachine.Proofs.Observation

/-! The store of a function body. It has a slot for each parameter and each declared local, and all of
them have a value. No execution changes the number of slots or takes a value away, so a body never reads
a slot without a value, and a slot that it does not find is one beyond its parameters and locals. -/

namespace FrameMachine

structure Locals.Populated (size : Nat) (locals : Locals) : Prop where
  size : locals.size = size
  slots : ∀ slot ∈ locals.slots, slot.isSome = true

namespace Locals.Populated

variable {size : Nat} {locals : Locals}

theorem slot_ne_none (populated : locals.Populated size) (position : Nat) :
    locals.slots[position]? ≠ some none := by
  intro empty
  cases populated.slots none (List.mem_of_getElem? empty)

/-- Over such slots a fault says nothing of a slot without a value, and knows their number. -/
theorem cause {limit : UInt64} {depth : Nat} {code : List Instruction} {fault : Fault}
    (populated : locals.Populated size) (cause : fault.Cause limit depth code locals) :
    (∀ index, fault ≠ .unpopulatedLocal index) ∧
      ∀ index found, fault = .localOutOfRange index found → found = size ∧ size ≤ index.toNat := by
  constructor
  · rintro index rfl
    exact populated.slot_ne_none index.toNat cause.2.2
  · rintro index found rfl
    obtain ⟨same, outside, _⟩ := cause
    have all := same.trans populated.size
    exact ⟨all, all ▸ outside⟩

end Locals.Populated

theorem Runs.populated {limit depth : UInt64} {pc size : Nat} {code : List Instruction}
    {before after : Memory} {events : List Event} {stop : Option Stop}
    (run : Runs limit depth pc code before events stop after)
    (populated : before.locals.Populated size) : after.locals.Populated size := by
  refine ⟨run.size.trans populated.size, ?_⟩
  apply run.slots _ populated.slots
  intro _ _ _ _
  rfl

namespace FunctionBody

theorem slots_store (body : FunctionBody) (position : Nat) :
    body.store.slots[position]? =
      if position < body.params.length then body.params[position]?.map some
      else body.locals[position - body.params.length]?.map fun type =>
        some (match type with | .i32 => .i32 0 | .i64 => .i64 0) := by
  simp only [store, Locals.ofValues, List.getElem?_map, List.getElem?_append]
  split
  · rfl
  · rw [Option.map_map]
    rfl

theorem store_populated (body : FunctionBody) :
    body.store.Populated (body.params.length + body.locals.length) := by
  constructor
  · simp only [store, Locals.ofValues, Locals.size, List.length_map, List.length_append]
  · intro slot member
    obtain ⟨v, _, rfl⟩ := List.mem_map.mp member
    rfl

theorem run_fault {body : FunctionBody} {config : Configuration} {record : Bool} {fault : Fault}
    (failed : (body.run config record).1 = .error fault) :
    ((⟨config.maxDepth, .recorder⟩ : Machine (Array Event)).run body.code body.store #[]).1 =
      .error fault := by
  have recorded := body.run_recorded config.maxDepth config.traceEnabled record
  cases ran : (⟨config.maxDepth, .recorder⟩ : Machine (Array Event)).run body.code body.store #[] with
  | mk answer after =>
    simp only [ran, failed] at recorded
    cases answer with
    | error met => cases recorded; rfl
    | ok outcome => cases recorded

/-- A body runs over a populated store. The store has a slot for each parameter, which holds it, and
behind them one for each declared local, which holds the zero of its type. A run keeps as many slots,
each with a value, however it ends; so whatever the configuration, and recorded or not, it never meets a
slot without a value, and it misses a slot only beyond these. -/
theorem run_populated (body : FunctionBody) :
    let size := body.params.length + body.locals.length
    body.store.size = size ∧
    (∀ position : Nat, body.store.slots[position]? =
      if position < body.params.length then body.params[position]?.map some
      else body.locals[position - body.params.length]?.map fun type =>
        some (match type with | .i32 => .i32 0 | .i64 => .i64 0)) ∧
    (∀ {σ : Type} (machine : Machine σ) (seen : σ),
      (machine.run body.code body.store seen).2.locals.Populated size) ∧
    ∀ config record fault, (body.run config record).1 = .error fault →
      (∀ index, fault ≠ .unpopulatedLocal index) ∧
      ∀ index found, fault = .localOutOfRange index found → found = size ∧ size ≤ index.toNat := by
  refine ⟨body.store_populated.size, body.slots_store, ?_, ?_⟩
  · intro σ machine seen
    obtain ⟨stop, after, run, ran⟩ := machine.run_runs body.code body.store
    rw [ran seen]
    exact run.populated body.store_populated
  · intro config record fault failed
    let machine : Machine (Array Event) := ⟨config.maxDepth, .recorder⟩
    obtain ⟨stop, after, run, ran⟩ := machine.run_runs body.code body.store
    have met := body.run_fault failed
    rw [ran #[]] at met
    obtain rfl := Memory.result_error met
    exact (run.populated body.store_populated).cause run.cause

/-- A run that wrote to its last slot and then missed the one behind it. -/
theorem run_populated_missed_slot :
    let body : FunctionBody :=
      ⟨[.i32 7], [.i64], [.setLocal (some 1) (some (.getLocal (some 0))), .loop [.getLocal (some 2)]]⟩
    let failed := Fault.localOutOfRange 2 2
    body.store.slots[1]? = some (some (.i64 0)) ∧
    (body.run ⟨1, true⟩ false).1 = .error failed ∧ (∀ index, failed ≠ .unpopulatedLocal index) ∧
      body.params.length + body.locals.length ≤ (2 : UInt64).toNat := by
  intro body failed
  have met : (body.run ⟨1, true⟩ false).1 = .error failed := rfl
  have started : body.store.slots[1]? = some (some (.i64 0)) := body.run_populated.2.1 1
  obtain ⟨populated, missed⟩ := body.run_populated.2.2.2 ⟨1, true⟩ false failed met
  exact ⟨started, met, populated, (missed 2 2 rfl).2⟩

end FunctionBody

end FrameMachine
