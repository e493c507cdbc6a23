import FrameMachine.Frame
import FrameMachine.FunctionBody
import FrameMachine.Proofs.Execution

/-! Observation. Whoever observes an execution, and whether anybody does, it gives the same result and
leaves the same state, and every observer is told of the same events in the same order. A function body
therefore answers the same whether its run is recorded, logged or neither, and the log says what the
record says. -/

namespace FrameMachine

theorem Observer.noticeAll_logger (events : List Event) (log : Array LogRecord) :
    (Observer.logger.noticeAll events log).toList = log.toList ++ events.map .ofEvent := by
  induction events generalizing log with
  | nil => simp
  | cons event events ih =>
    rw [Observer.noticeAll_cons, ih]
    simp [Observer.logger]

/-- One execution for all observers: they only fold its events. A frame that is too deep itself has
none. -/
theorem Machine.execute_observed (limit depth : UInt64) (code : List Instruction)
    (values : List Value) (locals : Locals) :
    ∃ result left kept events, ∀ {σ : Type} (observer : Observer σ) (seen : σ),
      (⟨limit, observer⟩ : Machine σ).execute depth code ⟨values, locals, seen⟩ =
        (result, ⟨left, kept, observer.noticeAll events seen⟩) := by
  by_cases deep : limit < depth
  · refine ⟨.error (.depthExceeded limit), values, locals, [], ?_⟩
    intro σ observer seen
    rw [execute_tooDeep ⟨limit, observer⟩ deep, Observer.noticeAll_nil]
  · obtain ⟨events, stop, after, run⟩ := Runs.exists limit depth 0 code ⟨values, locals⟩
    refine ⟨(after.result stop).1, (after.result stop).2, after.locals, events, ?_⟩
    intro σ observer seen
    exact execute_of_runs ⟨limit, observer⟩ deep run seen

/-- All that recording and logging decide of a run: where its events go. -/
theorem FunctionBody.run_observed (body : FunctionBody) (maxDepth : UInt64) :
    ∃ (result : Except Fault Outcome) (events : List Event), ∀ enabled record,
      body.run ⟨maxDepth, enabled⟩ record =
        (result.map fun outcome => ⟨outcome, if record then events else []⟩,
          if enabled && !record then events.map .ofEvent else []) := by
  obtain ⟨result, left, kept, events, observed⟩ :=
    Machine.execute_observed maxDepth 0 body.code [] body.store
  refine ⟨result, events, ?_⟩
  intro enabled record
  cases record with
  | true =>
    have recorded : (Observer.recorder.noticeAll events #[]).toList = events :=
      Observer.noticeAll_recorder events #[]
    simp only [run, Machine.run, observed, recorded, if_true, Bool.not_true, Bool.and_false,
      Bool.false_eq_true, if_false]
  | false =>
    cases enabled with
    | true =>
      have logged : (Observer.logger.noticeAll events #[]).toList = events.map .ofEvent :=
        Observer.noticeAll_logger events #[]
      simp only [run, Machine.run, observed, logged, Bool.false_eq_true, if_false, if_true,
        Bool.not_false, Bool.and_true]
    | false => simp only [run, Machine.run, observed, Bool.false_eq_true, if_false, Bool.false_and]

/-- A run answers what the machine answers, and records what a recorder is told by it. -/
theorem FunctionBody.run_recorded (body : FunctionBody) (maxDepth : UInt64) (enabled record : Bool) :
    let (answer, after) := (⟨maxDepth, .recorder⟩ : Machine (Array Event)).run body.code body.store #[]
    (body.run ⟨maxDepth, enabled⟩ record).1 =
      answer.map fun outcome => ⟨outcome, if record then after.seen.toList else []⟩ := by
  obtain ⟨result, events, observed⟩ := body.run_observed maxDepth
  have recorded := congrArg Prod.fst (observed false true)
  simp only [run, if_true] at recorded
  rw [observed]
  cases executed : (⟨maxDepth, .recorder⟩ : Machine (Array Event)).run body.code body.store #[] with
  | mk answer after =>
    simp only [executed] at recorded
    cases result with
    | error fault =>
      cases answer with
      | error fault' => cases recorded; rfl
      | ok outcome => cases recorded
    | ok outcome =>
      cases answer with
      | error fault => cases recorded
      | ok outcome' => cases recorded; rfl

namespace Observer

/-- Observation changes nothing. A frame answers the same over every observer, the silent one included,
and leaves the same values and locals; every observer is told of the same events, which are what a
recorder keeps, and of which a logger writes the depth, the position and the text of the instruction. So a
function body answers the same whatever is recorded or logged; the record of a run that met no fault
reads like the log of the run that is logged, and there is none unless asked for. -/
theorem observers_agree :
    (∀ (limit depth : UInt64) (frame : Frame) (locals : Locals),
      ∃ result after kept events,
        (∀ {σ : Type} (observer : Observer σ) (seen : σ),
          frame.execute ⟨limit, observer⟩ depth locals seen =
            (result, after, kept, observer.noticeAll events seen)) ∧
        (frame.execute ⟨limit, recorder⟩ depth locals #[]).2.2.2.toList = events ∧
        (frame.execute ⟨limit, logger⟩ depth locals #[]).2.2.2.toList =
          events.map fun event => .executed event.depth event.pc event.instruction.text) ∧
    ∀ (body : FunctionBody) (maxDepth : UInt64),
      (∀ enabled record enabled' record',
        (body.run ⟨maxDepth, enabled⟩ record).1.map RunReport.outcome =
          (body.run ⟨maxDepth, enabled'⟩ record').1.map RunReport.outcome) ∧
      (∀ enabled report, (body.run ⟨maxDepth, enabled⟩ true).1 = .ok report →
        report.trace.map (fun event => .executed event.depth event.pc event.instruction.text) =
          (body.run ⟨maxDepth, true⟩ false).2) ∧
      ∀ enabled report, (body.run ⟨maxDepth, enabled⟩ false).1 = .ok report → report.trace = [] := by
  constructor
  · intro limit depth frame locals
    obtain ⟨result, left, kept, events, observed⟩ :=
      Machine.execute_observed limit depth frame.code frame.values locals
    have executed : ∀ {σ : Type} (observer : Observer σ) (seen : σ),
        frame.execute ⟨limit, observer⟩ depth locals seen =
          (result, ⟨frame.code, left⟩, kept, observer.noticeAll events seen) := by
      intro σ observer seen
      simp only [Frame.execute, observed]
    refine ⟨result, ⟨frame.code, left⟩, kept, events, executed, ?_, ?_⟩
    · rw [executed]
      exact noticeAll_recorder events #[]
    · rw [executed]
      exact noticeAll_logger events #[]
  · intro body maxDepth
    obtain ⟨result, events, observed⟩ := body.run_observed maxDepth
    simp only [observed]
    refine ⟨?_, ?_, ?_⟩
    · intro enabled record enabled' record'
      cases result <;> rfl
    · intro enabled report answered
      cases result with
      | error fault => cases answered
      | ok outcome => cases answered; rfl
    · intro enabled report answered
      cases result with
      | error fault => cases answered
      | ok outcome => cases answered; rfl

theorem observers_agree_trapped_body :
    let body : FunctionBody := ⟨[.i32 10], [.i32], [.loop [.getLocal (some 0)], .nop, .trap]⟩
    ∃ recorded unrecorded,
      (body.run ⟨1, false⟩ true).1 = .ok recorded ∧ (body.run ⟨1, true⟩ false).1 = .ok unrecorded ∧
      recorded.trace.length = 3 ∧
      recorded.trace.map (fun event => .executed event.depth event.pc event.instruction.text) =
        (body.run ⟨1, true⟩ false).2 ∧
      unrecorded.trace = [] := by
  intro body
  obtain ⟨_, rendered, unasked⟩ := observers_agree.2 body 1
  exact ⟨_, _, rfl, rfl, rfl, rendered false _ rfl, unasked true _ rfl⟩

end Observer

end FrameMachine
