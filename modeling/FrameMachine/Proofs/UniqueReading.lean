import FrameMachine.Instruction.Json
import FrameMachine.Instruction.Text
import FrameMachine.Proofs.JsonTokens

/-! The text form of instructions can be read in one way only. An instruction is written as its name and
its operands, with parentheses around them if it is a block. A name ends at a blank or a closing
parenthesis, a number at the first character that is no digit, and nothing but a number starts like
one. So a text that starts with an instruction determines the instruction and the rest of the text. -/

namespace FrameMachine

/-- Two words that stop where a class of characters stops are the same if the texts are. -/
theorem word_append_inj (within : Char → Bool) {word other rest remainder : List Char}
    (inWord : ∀ c ∈ word, within c = true) (inOther : ∀ c ∈ other, within c = true)
    (stops : ∀ c, rest.head? = some c → within c = false)
    (stopsToo : ∀ c, remainder.head? = some c → within c = false)
    (same : word ++ rest = other ++ remainder) : word = other ∧ rest = remainder := by
  have words : word = other := by
    rw [← (takeWhile_run inWord stops).1, same, (takeWhile_run inOther stopsToo).1]
  subst words
  exact ⟨rfl, List.append_cancel_left same⟩

namespace Decimal

theorem digits_append_inj {m n : Nat} {rest remainder : List Char}
    (stops : ∀ c, rest.head? = some c → c.isDigit = false)
    (stopsToo : ∀ c, remainder.head? = some c → c.isDigit = false)
    (same : digits m ++ rest = digits n ++ remainder) : m = n ∧ rest = remainder := by
  obtain ⟨runs, rests⟩ :=
    word_append_inj Char.isDigit (fun _ => digits_isDigit) (fun _ => digits_isDigit) stops stopsToo same
  refine ⟨?_, rests⟩
  rw [← value_digits m, runs, value_digits]

/-- A number starts with a digit or with a minus sign. -/
theorem chars_eq_cons (n : Int) :
    ∃ c rest, chars n = c :: rest ∧ (c.isDigit = true ∨ c = '-') := by
  cases n with
  | ofNat n =>
    obtain ⟨c, rest, leading, digit⟩ := digits_eq_cons n
    exact ⟨c, rest, leading, .inl digit⟩
  | negSucc n => exact ⟨'-', digits (n + 1), rfl, .inr rfl⟩

theorem digits_append_ne_minus (n : Nat) (rest remainder : List Char) :
    digits n ++ rest ≠ '-' :: remainder := by
  obtain ⟨c, tail, leading, digit⟩ := digits_eq_cons n
  rw [leading]
  intro same
  obtain ⟨rfl, -⟩ := List.cons.inj same
  cases digit

theorem chars_append_inj {m n : Int} {rest remainder : List Char}
    (stops : ∀ c, rest.head? = some c → c.isDigit = false)
    (stopsToo : ∀ c, remainder.head? = some c → c.isDigit = false)
    (same : chars m ++ rest = chars n ++ remainder) : m = n ∧ rest = remainder := by
  cases m with
  | ofNat m =>
    cases n with
    | ofNat n =>
      obtain ⟨rfl, rests⟩ := digits_append_inj stops stopsToo same
      exact ⟨rfl, rests⟩
    | negSucc n => exact absurd same (digits_append_ne_minus m _ _)
  | negSucc m =>
    cases n with
    | ofNat n => exact absurd same.symm (digits_append_ne_minus n _ _)
    | negSucc n =>
      obtain ⟨equal, rests⟩ := digits_append_inj stops stopsToo (List.cons.inj same).2
      exact ⟨congrArg Int.negSucc (Nat.succ.inj equal), rests⟩

end Decimal

namespace Instruction

def operation : Instruction → Operation
  | .const _ => .const
  | .nop => .nop
  | .loop _ => .loop
  | .trap => .trap
  | .getLocal _ => .getLocal
  | .setLocal .. => .setLocal
  | .binary operator => .binary operator
  | .unknown => .unknown

theorem ofName_name (instruction : Instruction) :
    Operation.ofName instruction.name = instruction.operation := by
  cases instruction with
  | binary operator => cases operator <;> rfl
  | const | nop | loop | trap | getLocal | setLocal | unknown => rfl

def numberText (number : Option Int) (rest : List Char) : List Char :=
  match number with
  | some n => ' ' :: (Decimal.chars n ++ rest)
  | none => rest

theorem indexText_eq_numberText (index : Option UInt64) (rest : List Char) :
    indexText index rest = numberText (index.map fun i => (i.toNat : Int)) rest := by
  cases index <;> rfl

def operandText : Instruction → List Char → List Char
  | .const value, rest => numberText (value.map Int64.toInt) rest
  | .getLocal index, rest => indexText index rest
  | .loop body, rest => renderBody body rest
  | .setLocal index init, rest => indexText index (renderInit init rest)
  | _, rest => rest

def named (instruction : Instruction) (rest : List Char) : List Char :=
  instruction.name.toList ++ instruction.operandText rest

theorem render_block {instruction : Instruction} (block : instruction.isBlock = true)
    (rest : List Char) : instruction.render rest = '(' :: instruction.named (')' :: rest) := by
  cases instruction with
  | loop body =>
    have spelled : "(loop".toList = '(' :: "loop".toList := by decide
    exact congrArg (· ++ renderBody body (')' :: rest)) spelled
  | setLocal index init =>
    have spelled : "(set_local".toList = '(' :: "set_local".toList := by decide
    exact congrArg (· ++ indexText index (renderInit init (')' :: rest))) spelled
  | const | nop | trap | getLocal | binary | unknown => cases block

theorem render_plain {instruction : Instruction} (plain : instruction.isBlock = false)
    (rest : List Char) : instruction.render rest = instruction.named rest := by
  cases instruction with
  | const value =>
    cases value with
    | none => rfl
    | some n =>
      have spelled : "i32.const ".toList = "i32.const".toList ++ [' '] := by decide
      exact (congrArg (· ++ _) spelled).trans (List.append_assoc _ _ _)
  | getLocal index =>
    cases index with
    | none => rfl
    | some i =>
      have spelled : "get_local ".toList = "get_local".toList ++ [' '] := by decide
      exact (congrArg (· ++ _) spelled).trans (List.append_assoc _ _ _)
  | nop | trap | binary | unknown => rfl
  | loop | setLocal => cases plain

/-- Whether or not it brings its own parentheses, an initializer stands in one pair of them. -/
theorem renderInit_some (init : Instruction) (rest : List Char) :
    renderInit (some init) rest = ' ' :: '(' :: init.named (')' :: rest) := by
  rw [renderInit]
  cases block : init.isBlock with
  | true => rw [if_pos rfl, render_block block]
  | false => rw [if_neg Bool.false_ne_true, render_plain block]

/-- What may follow the operands of an instruction: nothing, a closing parenthesis, or more behind a
blank that is no number. -/
inductive Follows : List Char → Prop
  | nothing : Follows []
  | closing (rest : List Char) : Follows (')' :: rest)
  | gap {c : Char} (unsigned : c ≠ '-') (other : c.isDigit = false) (rest : List Char) :
    Follows (' ' :: c :: rest)

/-- What may follow the name and operands of an instruction. A block is closed right behind them. -/
inductive Terminates (instruction : Instruction) : List Char → Prop
  | closing (rest : List Char) : Terminates instruction (')' :: rest)
  | bare {rest : List Char} (plain : instruction.isBlock = false) (follows : Follows rest) :
    Terminates instruction rest

def inWord (c : Char) : Bool := c != ' ' && c != ')'

def EndsWord (rest : List Char) : Prop := ∀ c, rest.head? = some c → inWord c = false

theorem endsWord_cons {c : Char} (delimiter : inWord c = false) (rest : List Char) :
    EndsWord (c :: rest) := by
  intro first leads
  cases leads
  exact delimiter

theorem Follows.endsWord {rest : List Char} (follows : Follows rest) : EndsWord rest := by
  cases follows with
  | nothing => intro c leads; cases leads
  | closing | gap => exact endsWord_cons rfl _

theorem Follows.undigit {rest : List Char} (follows : Follows rest) (c : Char)
    (leads : rest.head? = some c) : c.isDigit = false := by
  cases follows with
  | nothing => cases leads
  | closing | gap => cases leads; rfl

theorem Terminates.follows {instruction : Instruction} {rest : List Char}
    (terminates : Terminates instruction rest) : Follows rest := by
  cases terminates with
  | closing rest => exact .closing rest
  | bare _ follows => exact follows

theorem numberText_endsWord (number : Option Int) {rest : List Char} (ends : EndsWord rest) :
    EndsWord (numberText number rest) := by
  cases number with
  | none => exact ends
  | some n => exact endsWord_cons rfl _

/-- Without a number, what follows cannot be taken for one. -/
theorem Follows.ne_number {rest : List Char} (follows : Follows rest) (n : Int)
    (remainder : List Char) : rest ≠ ' ' :: (Decimal.chars n ++ remainder) := by
  obtain ⟨first, tail, leading, number⟩ := Decimal.chars_eq_cons n
  intro same
  rw [leading] at same
  cases follows with
  | nothing | closing => cases same
  | gap unsigned other rest =>
    cases same
    rcases number with digit | minus
    · rw [other] at digit
      cases digit
    · exact unsigned minus

theorem numberText_inj {number other : Option Int} {rest remainder : List Char}
    (follows : Follows rest) (followsToo : Follows remainder)
    (same : numberText number rest = numberText other remainder) :
    number = other ∧ rest = remainder := by
  cases number with
  | none =>
    cases other with
    | none => exact ⟨rfl, same⟩
    | some n => exact absurd same (follows.ne_number n remainder)
  | some m =>
    cases other with
    | none => exact absurd same.symm (followsToo.ne_number m rest)
    | some n =>
      obtain ⟨rfl, rests⟩ :=
        Decimal.chars_append_inj follows.undigit followsToo.undigit (List.cons.inj same).2
      exact ⟨rfl, rests⟩

theorem indexText_inj {index other : Option UInt64} {rest remainder : List Char}
    (follows : Follows rest) (followsToo : Follows remainder)
    (same : indexText index rest = indexText other remainder) :
    index = other ∧ rest = remainder := by
  rw [indexText_eq_numberText, indexText_eq_numberText] at same
  obtain ⟨numbers, rests⟩ := numberText_inj follows followsToo same
  refine ⟨Option.map_injective ?_ numbers, rests⟩
  intro i j equal
  exact UInt64.toNat_inj.mp (Int.ofNat.inj equal)

theorem name_inWord (instruction : Instruction) : ∀ c ∈ instruction.name.toList, inWord c = true := by
  rw [← List.all_eq_true]
  cases instruction with
  | binary operator => cases operator <;> decide
  | const | nop | loop | trap | getLocal | setLocal | unknown =>
    rw [name]
    decide

theorem renderInit_follows (init : Option Instruction) (rest : List Char) :
    Follows (renderInit init (')' :: rest)) := by
  cases init with
  | none => exact .closing rest
  | some init =>
    rw [renderInit_some]
    exact .gap (by decide) (by decide) _

/-- The text of a name starts with a letter. -/
theorem named_eq_cons (instruction : Instruction) (rest : List Char) :
    ∃ c more, instruction.named rest = c :: more ∧ c ≠ '(' ∧ c ≠ '-' ∧ c.isDigit = false := by
  have lettered : ∃ c more, instruction.name.toList = c :: more ∧
      c ≠ '(' ∧ c ≠ '-' ∧ c.isDigit = false := by
    cases instruction with
    | binary operator => cases operator <;> exact ⟨'i', _, rfl, by decide, by decide, by decide⟩
    | const | nop | loop | trap | getLocal | setLocal | unknown =>
      rw [name]
      exact ⟨_, _, rfl, by decide, by decide, by decide⟩
  obtain ⟨c, more, leading, other⟩ := lettered
  exact ⟨c, more ++ instruction.operandText rest, by rw [named, leading, List.cons_append], other⟩

/-- The text of an instruction does not start like a number. -/
theorem render_eq_cons (instruction : Instruction) (rest : List Char) :
    ∃ c more, instruction.render rest = c :: more ∧ c ≠ '-' ∧ c.isDigit = false := by
  cases block : instruction.isBlock with
  | true =>
    rw [render_block block]
    exact ⟨_, _, rfl, by decide, by decide⟩
  | false =>
    rw [render_plain block]
    obtain ⟨c, more, leading, _, unsigned, other⟩ := instruction.named_eq_cons rest
    exact ⟨c, more, leading, unsigned, other⟩

theorem renderBody_follows (body : List Instruction) (rest : List Char) :
    Follows (renderBody body (')' :: rest)) := by
  cases body with
  | nil => exact .closing rest
  | cons first others =>
    obtain ⟨c, more, leading, unsigned, other⟩ :=
      first.render_eq_cons (renderBody others (')' :: rest))
    rw [renderBody, leading]
    exact .gap unsigned other more

theorem operandText_endsWord {instruction : Instruction} {rest : List Char}
    (terminates : Terminates instruction rest) : EndsWord (instruction.operandText rest) := by
  have ends := terminates.follows.endsWord
  cases instruction with
  | const value => exact numberText_endsWord _ ends
  | getLocal index =>
    rw [operandText, indexText_eq_numberText]
    exact numberText_endsWord _ ends
  | loop body =>
    cases terminates with
    | closing rest => exact (renderBody_follows body rest).endsWord
    | bare plain => cases plain
  | setLocal index init =>
    cases terminates with
    | closing rest =>
      rw [operandText, indexText_eq_numberText]
      exact numberText_endsWord _ (renderInit_follows init rest).endsWord
    | bare plain => cases plain
  | nop | trap | binary | unknown => exact ends

/-- Equal texts come from the same operation, with equal texts of its operands. -/
theorem operation_of_named {instruction other : Instruction} {rest remainder : List Char}
    (terminates : Terminates instruction rest) (terminatesToo : Terminates other remainder)
    (same : instruction.named rest = other.named remainder) :
    instruction.operation = other.operation ∧
      instruction.operandText rest = other.operandText remainder := by
  obtain ⟨names, operands⟩ :=
    word_append_inj inWord instruction.name_inWord other.name_inWord
      (operandText_endsWord terminates) (operandText_endsWord terminatesToo) same
  refine ⟨?_, operands⟩
  rw [← ofName_name, ← ofName_name, String.toList_inj.mp names]

/-- A text that starts with the name and operands of an instruction starts with no other, and says where
they end. -/
def Determined (instruction : Instruction) : Prop :=
  ∀ (other : Instruction) (rest remainder : List Char), Terminates instruction rest →
    Terminates other remainder → instruction.named rest = other.named remainder →
    instruction = other ∧ rest = remainder

theorem Determined.render_inj {instruction other : Instruction} {rest remainder : List Char}
    (determined : instruction.Determined) (follows : Follows rest) (followsToo : Follows remainder)
    (same : instruction.render rest = other.render remainder) :
    instruction = other ∧ rest = remainder := by
  have unopened (bare : Instruction) (more tail : List Char) : bare.named more ≠ '(' :: tail := by
    obtain ⟨c, _, leading, other, _⟩ := bare.named_eq_cons more
    rw [leading]
    intro same
    exact other (List.cons.inj same).1
  cases block : instruction.isBlock with
  | true =>
    rw [render_block block] at same
    cases blockToo : other.isBlock with
    | true =>
      rw [render_block blockToo] at same
      obtain ⟨equal, rests⟩ :=
        determined _ _ _ (.closing rest) (.closing remainder) (List.cons.inj same).2
      exact ⟨equal, (List.cons.inj rests).2⟩
    | false =>
      rw [render_plain blockToo] at same
      exact absurd same.symm (unopened other _ _)
  | false =>
    rw [render_plain block] at same
    cases blockToo : other.isBlock with
    | true =>
      rw [render_block blockToo] at same
      exact absurd same (unopened instruction _ _)
    | false =>
      rw [render_plain blockToo] at same
      exact determined _ _ _ (.bare block follows) (.bare blockToo followsToo) same

mutual

theorem determined (instruction : Instruction) : instruction.Determined := by
  intro other rest remainder terminates terminatesToo same
  obtain ⟨operations, operands⟩ := operation_of_named terminates terminatesToo same
  have follows := terminates.follows
  have followsToo := terminatesToo.follows
  match instruction with
  | .const value =>
    cases other with
    | const value =>
      obtain ⟨values, rests⟩ := numberText_inj follows followsToo operands
      exact ⟨congrArg const (Option.map_injective (fun _ _ => Int64.toInt_inj.mp) values), rests⟩
    | nop | loop | trap | getLocal | setLocal | binary | unknown => cases operations
  | .getLocal index =>
    cases other with
    | getLocal index =>
      obtain ⟨rfl, rests⟩ := indexText_inj follows followsToo operands
      exact ⟨rfl, rests⟩
    | const | nop | loop | trap | setLocal | binary | unknown => cases operations
  | .loop body =>
    cases other with
    | loop code =>
      cases terminates with
      | bare plain => cases plain
      | closing rest =>
        cases terminatesToo with
        | bare plain => cases plain
        | closing remainder =>
          obtain ⟨rfl, rfl⟩ := renderBody_inj body operands
          exact ⟨rfl, rfl⟩
    | const | nop | trap | getLocal | setLocal | binary | unknown => cases operations
  | .setLocal index init =>
    cases other with
    | setLocal slot source =>
      cases terminates with
      | bare plain => cases plain
      | closing rest =>
        cases terminatesToo with
        | bare plain => cases plain
        | closing remainder =>
          obtain ⟨rfl, inits⟩ :=
            indexText_inj (renderInit_follows init rest) (renderInit_follows source remainder) operands
          obtain ⟨rfl, rfl⟩ := renderInit_inj init inits
          exact ⟨rfl, rfl⟩
    | const | nop | loop | trap | getLocal | binary | unknown => cases operations
  | .nop | .trap | .unknown =>
    cases other with
    | nop | trap | unknown => cases operations <;> exact ⟨rfl, operands⟩
    | const | loop | getLocal | setLocal | binary => cases operations
  | .binary operator =>
    cases other with
    | binary => cases operations; exact ⟨rfl, operands⟩
    | const | nop | loop | trap | getLocal | setLocal | unknown => cases operations
termination_by structural instruction

theorem renderBody_inj (body : List Instruction) {code : List Instruction}
    {rest remainder : List Char}
    (same : renderBody body (')' :: rest) = renderBody code (')' :: remainder)) :
    body = code ∧ rest = remainder := by
  match body, code with
  | [], [] => exact ⟨rfl, (List.cons.inj same).2⟩
  | [], _ :: _ | _ :: _, [] => cases same
  | first :: others, head :: tail =>
    obtain ⟨rfl, texts⟩ :=
      (determined first).render_inj (renderBody_follows others rest)
        (renderBody_follows tail remainder) (List.cons.inj same).2
    obtain ⟨rfl, rests⟩ := renderBody_inj others texts
    exact ⟨rfl, rests⟩
termination_by structural body

theorem renderInit_inj (init : Option Instruction) {source : Option Instruction}
    {rest remainder : List Char}
    (same : renderInit init (')' :: rest) = renderInit source (')' :: remainder)) :
    init = source ∧ rest = remainder := by
  match init, source with
  | none, none => exact ⟨rfl, (List.cons.inj same).2⟩
  | none, some _ | some _, none =>
    rw [renderInit_some] at same
    cases same
  | some init, some source =>
    rw [renderInit_some, renderInit_some] at same
    have texts := (List.cons.inj (List.cons.inj same).2).2
    obtain ⟨rfl, rests⟩ := determined init _ _ _ (.closing _) (.closing _) texts
    exact ⟨rfl, (List.cons.inj (List.cons.inj rests).2).2⟩
termination_by structural init

end

/-- The text form of instructions is unambiguous: trees with the same text are the same tree. -/
theorem text_inj (instruction other : Instruction) :
    instruction.text = other.text ↔ instruction = other := by
  constructor
  · intro same
    have rendered : instruction.render [] = other.render [] := String.ofList_inj.mp same
    exact (instruction.determined.render_inj .nothing .nothing rendered).1
  · intro same
    rw [same]

end Instruction

end FrameMachine
