import FrameMachine.Proofs.Composition
import FrameMachine.Proofs.StoreInvariant
import Mathlib.Data.Int.ModEq

/-! Arithmetic on the value stack. The code of an expression puts its operands in front of its operator.
Every operator wraps its result, and since wrapping changes a number by a multiple of the modulus only,
what is left at the end is the exact value of the expression, wrapped once. An expression that mixes types
comes to an operator that refuses its operands. -/

namespace FrameMachine

namespace ValueType

def width : ValueType → Nat
  | .i32 => 32
  | .i64 => 64

/-- The payload that stands for a number in a type: the signed integer of that width which differs from
the number by a multiple of the modulus. -/
structure Represents (type : ValueType) (payload number : Int) : Prop where
  lower : -2 ^ (type.width - 1) ≤ payload
  upper : payload < 2 ^ (type.width - 1)
  congruent : payload ≡ number [ZMOD 2 ^ type.width]

theorem Represents.unique {type : ValueType} {payload other number : Int}
    (first : type.Represents payload number) (second : type.Represents other number) :
    payload = other := by
  obtain ⟨lower, upper, congruent⟩ := first
  obtain ⟨otherLower, otherUpper, otherCongruent⟩ := second
  have same := congruent.trans otherCongruent.symm
  cases type <;> simp only [width, Int.ModEq] at * <;> omega

theorem uniform_of_unmixed {types : List ValueType} (unmixed : ¬ (i32 ∈ types ∧ i64 ∈ types)) :
    ∃ type, ∀ leaf ∈ types, leaf = type := by
  by_cases narrow : i32 ∈ types
  · refine ⟨.i32, ?_⟩
    intro leaf member
    cases leaf with
    | i32 => rfl
    | i64 => exact (unmixed ⟨narrow, member⟩).elim
  · refine ⟨.i64, ?_⟩
    intro leaf member
    cases leaf with
    | i32 => exact (narrow member).elim
    | i64 => rfl

theorem ne_of_mixed {first second : List ValueType} {one other : ValueType}
    (left : ∀ leaf ∈ first, leaf = one) (right : ∀ leaf ∈ second, leaf = other)
    (narrow : i32 ∈ first ++ second) (wide : i64 ∈ first ++ second) : one ≠ other := by
  rintro rfl
  have uniform := List.forall_mem_append.mpr ⟨left, right⟩
  cases (uniform _ narrow).trans (uniform _ wide).symm

end ValueType

theorem Value.represents (v : Value) {number : Int}
    (congruent : v.toInt ≡ number [ZMOD 2 ^ v.type.width]) : v.type.Represents v.toInt number := by
  cases v with
  | i32 payload => exact ⟨payload.le_toInt, payload.toInt_lt, congruent⟩
  | i64 payload => exact ⟨payload.le_toInt, payload.toInt_lt, congruent⟩

namespace Operator

def onInt : Operator → Int → Int → Int
  | .add, x, y => x + y
  | .sub, x, y => x - y
  | .mul, x, y => x * y

theorem onInt_modEq (operator : Operator) {modulus x y m n : Int} (left : x ≡ m [ZMOD modulus])
    (right : y ≡ n [ZMOD modulus]) : operator.onInt x y ≡ operator.onInt m n [ZMOD modulus] := by
  cases operator with
  | add => exact left.add right
  | sub => exact left.sub right
  | mul => exact left.mul right

theorem toInt_onInt32 (operator : Operator) (x y : Int32) :
    (operator.onInt32 x y).toInt = (operator.onInt x.toInt y.toInt).bmod Int32.size := by
  cases operator with
  | add => exact Int32.toInt_add x y
  | sub => exact Int32.toInt_sub x y
  | mul => exact Int32.toInt_mul x y

theorem toInt_onInt64 (operator : Operator) (x y : Int64) :
    (operator.onInt64 x y).toInt = (operator.onInt x.toInt y.toInt).bmod Int64.size := by
  cases operator with
  | add => exact Int64.toInt_add x y
  | sub => exact Int64.toInt_sub x y
  | mul => exact Int64.toInt_mul x y

/-- The result of an operator on values is that on integers, up to a multiple of the modulus. -/
theorem apply_modEq {operator : Operator} {lhs rhs v : Value}
    (applied : operator.apply lhs rhs = .ok v) :
    v.toInt ≡ operator.onInt lhs.toInt rhs.toInt [ZMOD 2 ^ v.type.width] := by
  cases lhs with
  | i32 x =>
    cases rhs with
    | i32 y =>
      cases applied
      simp only [Value.toInt, toInt_onInt32]
      exact Int.bmod_emod
    | i64 y => cases applied
  | i64 x =>
    cases rhs with
    | i32 y => cases applied
    | i64 y =>
      cases applied
      simp only [Value.toInt, toInt_onInt64]
      exact Int.bmod_emod

theorem apply_mismatch (operator : Operator) {lhs rhs : Value} (differ : lhs.type ≠ rhs.type) :
    operator.apply lhs rhs = .error (.typeMismatch operator lhs.type rhs.type) := by
  cases lhs <;> cases rhs <;> first | rfl | exact (differ rfl).elim

end Operator

/-- Arithmetic over some locals. A leaf is a constant that fits a 32-bit integer, or reads a slot that
holds a value. -/
inductive Expression (locals : Locals) where
  | const (n : Int64) (fits : Int32.minValue.toInt ≤ n.toInt ∧ n.toInt ≤ Int32.maxValue.toInt)
  | read (index : UInt64) (v : Value) (holds : locals.slots[index.toNat]? = some (some v))
  | binary (operator : Operator) (lhs rhs : Expression locals)

namespace Expression

variable {locals : Locals}

def code : Expression locals → List Instruction
  | .const n _ => [.const (some n)]
  | .read index _ _ => [.getLocal (some index)]
  | .binary operator lhs rhs => lhs.code ++ rhs.code ++ [.binary operator]

def integer : Expression locals → Int
  | .const n _ => n.toInt
  | .read _ v _ => v.toInt
  | .binary operator lhs rhs => operator.onInt lhs.integer rhs.integer

def leafTypes : Expression locals → List ValueType
  | .const _ _ => [.i32]
  | .read _ v _ => [v.type]
  | .binary _ lhs rhs => lhs.leafTypes ++ rhs.leafTypes

variable {limit depth : UInt64}

/-- With leaves of one type the code pushes one value, of that type and congruent to the exact value. -/
theorem runs (expression : Expression locals) {type : ValueType}
    (uniform : ∀ leaf ∈ expression.leafTypes, leaf = type) (pc : Nat) (values : List Value) :
    ∃ events v,
      Runs limit depth pc expression.code ⟨values, locals⟩ events none ⟨v :: values, locals⟩ ∧
        v.type = type ∧ v.toInt ≡ expression.integer [ZMOD 2 ^ type.width] := by
  induction expression generalizing pc values with
  | const n fits =>
    obtain rfl := uniform .i32 (by simp only [leafTypes, List.mem_singleton])
    have gives : Instruction.Gives locals (.const (some n)) _ := .const (Value.create_i32 fits)
    refine ⟨_, _, gives.runs, rfl, ?_⟩
    simp only [Value.toInt, Int32.toInt_ofInt]
    exact Int.bmod_emod
  | read index v holds =>
    obtain rfl := uniform v.type (by simp only [leafTypes, List.mem_singleton])
    have gives : Instruction.Gives locals (.getLocal (some index)) v := .read (Locals.get_of_slot holds)
    exact ⟨_, v, gives.runs, rfl, rfl⟩
  | binary operator lhs rhs left right =>
    simp only [leafTypes, List.forall_mem_append] at uniform
    obtain ⟨_, x, first, xType, xCongruent⟩ := left uniform.1 pc values
    obtain ⟨_, y, second, yType, yCongruent⟩ := right uniform.2 (pc + lhs.code.length) (x :: values)
    obtain ⟨v, applied, vType⟩ := operator.apply_type (xType.trans yType.symm)
    have operates : Instruction.effect ⟨y :: x :: values, locals⟩ (.binary operator) =
        (none, v :: values) := by
      simp only [Instruction.effect, applied, Instruction.pushed]
    refine ⟨_, v, (first.append second).append (.simple rfl operates .finished), vType.trans xType, ?_⟩
    have reduced := Operator.apply_modEq applied
    rw [vType.trans xType] at reduced
    exact reduced.trans (operator.onInt_modEq xCongruent yCongruent)

/-- With leaves of both types some operator is the first to meet operands of different types. -/
theorem runs_mixed (expression : Expression locals) (narrow : .i32 ∈ expression.leafTypes)
    (wide : .i64 ∈ expression.leafTypes) (pc : Nat) (values : List Value) :
    ∃ events operator lhs rhs after,
      Runs limit depth pc expression.code ⟨values, locals⟩ events
        (some (.fault (.typeMismatch operator lhs rhs))) after := by
  induction expression generalizing pc values with
  | const n fits => simp [leafTypes] at wide
  | read index v holds =>
    simp only [leafTypes, List.mem_singleton] at narrow wide
    cases narrow.trans wide.symm
  | binary operator lhs rhs left right =>
    by_cases mixedLeft : .i32 ∈ lhs.leafTypes ∧ .i64 ∈ lhs.leafTypes
    · obtain ⟨_, _, _, _, _, run⟩ := left mixedLeft.1 mixedLeft.2 pc values
      exact ⟨_, _, _, _, _, (run.append_of_stopped rhs.code).append_of_stopped _⟩
    · obtain ⟨leftType, uniformLeft⟩ := ValueType.uniform_of_unmixed mixedLeft
      obtain ⟨_, x, first, xType, _⟩ := lhs.runs uniformLeft pc values
      by_cases mixedRight : .i32 ∈ rhs.leafTypes ∧ .i64 ∈ rhs.leafTypes
      · obtain ⟨_, _, _, _, _, run⟩ :=
          right mixedRight.1 mixedRight.2 (pc + lhs.code.length) (x :: values)
        exact ⟨_, _, _, _, _, (first.append run).append_of_stopped _⟩
      · obtain ⟨rightType, uniformRight⟩ := ValueType.uniform_of_unmixed mixedRight
        obtain ⟨_, y, second, yType, _⟩ :=
          rhs.runs uniformRight (pc + lhs.code.length) (x :: values)
        have differ : x.type ≠ y.type := by
          rw [xType, yType]
          exact ValueType.ne_of_mixed uniformLeft uniformRight narrow wide
        have refuses : Instruction.effect ⟨y :: x :: values, locals⟩ (.binary operator) =
            (some (.fault (.typeMismatch operator x.type y.type)), values) := by
          simp only [Instruction.effect, operator.apply_mismatch differ, Instruction.pushed]
        exact ⟨_, _, _, _, _, (first.append second).append (.halted rfl refuses)⟩

end Expression

namespace Machine

variable {σ : Type}

/-- The code of an expression computes it exactly, up to one reduction. With leaves of one type it answers
the value of that type whose payload alone represents the exact value, and leaves the values and the
locals as they were; with leaves of both types it is a fault. -/
theorem execute_expression (machine : Machine σ) {depth : UInt64} (within : depth ≤ machine.limit)
    {locals : Locals} (expression : Expression locals) (values : List Value) (seen : σ) :
    let executed := machine.execute depth expression.code ⟨values, locals, seen⟩
    (∀ type, (∀ leaf ∈ expression.leafTypes, leaf = type) →
      ∃ v, executed.1 = .ok (.value v) ∧ v.type = type ∧
        type.Represents v.toInt expression.integer ∧
        (∀ payload, type.Represents payload expression.integer → payload = v.toInt) ∧
        executed.2.values = values ∧ executed.2.locals = locals) ∧
    (.i32 ∈ expression.leafTypes → .i64 ∈ expression.leafTypes →
      ∃ operator lhs rhs, executed.1 = .error (.typeMismatch operator lhs rhs)) := by
  intro executed
  have shallow : ¬ machine.limit < depth := UInt64.not_lt.mpr within
  constructor
  · intro type uniform
    obtain ⟨_, v, run, rfl, congruent⟩ := expression.runs uniform 0 values
    have represents := v.represents congruent
    have answered : executed = _ := machine.execute_of_runs shallow run seen
    rw [answered]
    exact ⟨v, rfl, rfl, represents, fun _ other => other.unique represents, rfl, rfl⟩
  · intro narrow wide
    obtain ⟨_, operator, lhs, rhs, _, run⟩ := expression.runs_mixed narrow wide 0 values
    have failed : executed = _ := machine.execute_of_runs shallow run seen
    rw [failed]
    exact ⟨operator, lhs, rhs, rfl⟩

/-- The sum leaves the range of its type and the product more so; with a wide leaf in the place of a narrow
one the same code is a fault. -/
theorem execute_expression_wrapped_and_mixed :
    let machine : Machine Unit := ⟨2, .silent⟩
    let locals : Locals := ⟨[some (.i32 3), some (.i64 3)]⟩
    let largest : Expression locals := .const 2147483647 (by decide)
    let sum : Expression locals := .binary .add largest (.const 1 (by decide))
    let wrapped : Expression locals := .binary .mul sum (.read 0 (.i32 3) rfl)
    let mixed : Expression locals := .binary .mul sum (.read 1 (.i64 3) rfl)
    2 ≤ machine.limit ∧ wrapped.integer = 6442450944 ∧
      (∀ leaf ∈ wrapped.leafTypes, leaf = .i32) ∧
      (∃ v, (machine.execute 2 wrapped.code ⟨[.i64 7], locals, ()⟩).1 = .ok (.value v) ∧
        v.toInt = -2147483648) ∧
      .i32 ∈ mixed.leafTypes ∧ .i64 ∈ mixed.leafTypes ∧
      ∃ operator lhs rhs, (machine.execute 2 mixed.code ⟨[.i64 7], locals, ()⟩).1 =
        .error (.typeMismatch operator lhs rhs) := by
  intro machine locals largest sum wrapped mixed
  have within : 2 ≤ machine.limit := by decide
  have uniform : ∀ leaf ∈ wrapped.leafTypes, leaf = .i32 := by decide
  have narrow : .i32 ∈ mixed.leafTypes := by decide
  have wide : .i64 ∈ mixed.leafTypes := by decide
  have exact : wrapped.integer = 6442450944 := by decide
  obtain ⟨v, answered, _, _, alone, _⟩ :=
    (machine.execute_expression within wrapped [.i64 7] ()).1 .i32 uniform
  have payload : v.toInt = -2147483648 := by
    rw [← alone]
    exact ⟨by decide, by decide, by rw [exact]; decide⟩
  obtain ⟨_, fault⟩ := machine.execute_expression within mixed [.i64 7] ()
  exact ⟨within, exact, uniform, ⟨v, answered, payload⟩, narrow, wide, fault narrow wide⟩

end Machine

end FrameMachine
