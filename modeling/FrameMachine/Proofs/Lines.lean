import FrameMachine.Instruction.Text
import FrameMachine.Json.Printer
import FrameMachine.Outcome
import FrameMachine.Proofs.JsonTokens

/-! Texts of one line. Whatever is in an instruction, an outcome or a JSON value, its text holds no line
feed: instructions and outcomes are made of names and numbers, and JSON escapes it. -/

namespace FrameMachine

theorem oneLine_append {front rest : List Char} (one : '\n' ∉ front) (ends : '\n' ∉ rest) :
    '\n' ∉ front ++ rest := by
  rw [List.mem_append]
  exact not_or.mpr ⟨one, ends⟩

theorem oneLine_cons {c : Char} {rest : List Char} (other : c ≠ '\n') (ends : '\n' ∉ rest) :
    '\n' ∉ c :: rest := by
  rw [List.mem_cons]
  exact not_or.mpr ⟨other.symm, ends⟩

theorem Decimal.digits_oneLine (n : Nat) : '\n' ∉ digits n := by
  intro member
  cases digits_isDigit member

theorem Decimal.chars_oneLine (n : Int) : '\n' ∉ chars n := by
  cases n with
  | ofNat n => exact digits_oneLine n
  | negSucc n => exact oneLine_cons (by decide) (digits_oneLine (n + 1))

namespace Instruction

theorem name_oneLine (instruction : Instruction) : '\n' ∉ instruction.name.toList := by
  cases instruction with
  | binary operator => cases operator <;> decide
  | const | nop | loop | trap | getLocal | setLocal | unknown =>
    rw [name]
    decide

theorem indexText_oneLine (index : Option UInt64) {rest : List Char} (ends : '\n' ∉ rest) :
    '\n' ∉ indexText index rest := by
  cases index with
  | none => exact ends
  | some i => exact oneLine_cons (by decide) (oneLine_append (Decimal.chars_oneLine _) ends)

mutual

theorem render_oneLine (instruction : Instruction) {rest : List Char} (ends : '\n' ∉ rest) :
    '\n' ∉ instruction.render rest := by
  have closed : '\n' ∉ ')' :: rest := oneLine_cons (by decide) ends
  match instruction with
  | .const (some n) => exact oneLine_append (by decide) (oneLine_append (Decimal.chars_oneLine _) ends)
  | .getLocal (some i) =>
    exact oneLine_append (by decide) (oneLine_append (Decimal.chars_oneLine _) ends)
  | .loop body => exact oneLine_append (by decide) (renderBody_oneLine body closed)
  | .setLocal index init =>
    exact oneLine_append (by decide) (indexText_oneLine index (renderInit_oneLine init closed))
  | .const none | .getLocal none | .nop | .trap | .binary operator | .unknown =>
    exact oneLine_append (name_oneLine _) ends
termination_by structural instruction

theorem renderBody_oneLine (code : List Instruction) {rest : List Char} (ends : '\n' ∉ rest) :
    '\n' ∉ renderBody code rest := by
  cases code with
  | nil => exact ends
  | cons first others =>
    exact oneLine_cons (by decide) (render_oneLine first (renderBody_oneLine others ends))
termination_by structural code

theorem renderInit_oneLine (init : Option Instruction) {rest : List Char} (ends : '\n' ∉ rest) :
    '\n' ∉ renderInit init rest := by
  match init with
  | none => exact ends
  | some init =>
    have closed : '\n' ∉ ')' :: rest := oneLine_cons (by decide) ends
    rw [renderInit]
    split
    · exact oneLine_cons (by decide) (render_oneLine init ends)
    · exact oneLine_cons (by decide) (oneLine_cons (by decide) (render_oneLine init closed))
termination_by structural init

end

theorem text_oneLine (instruction : Instruction) : '\n' ∉ instruction.text.toList := by
  rw [text, String.toList_ofList]
  exact instruction.render_oneLine List.not_mem_nil

end Instruction

namespace Json

theorem hexChar_oneLine {n : Nat} (small : n < 16) : hexChar n ≠ '\n' := by
  have checked : ∀ d < 16, hexChar d ≠ '\n' := by decide
  exact checked n small

theorem charText_oneLine (c : Char) : '\n' ∉ charText c := by
  unfold charText
  split
  iterate 7 decide
  next _ _ _ _ lineFeed _ _ =>
    split
    next control =>
      have high := hexChar_oneLine (n := c.toNat / 16) (by omega)
      have low := hexChar_oneLine (n := c.toNat % 16) (by omega)
      have opening : '\n' ∉ ['\\', 'u', '0', '0'] := by decide
      exact oneLine_append opening (oneLine_cons high (oneLine_cons low List.not_mem_nil))
    next => exact oneLine_cons lineFeed List.not_mem_nil

theorem stringText_oneLine (s : String) {rest : List Char} (ends : '\n' ∉ rest) :
    '\n' ∉ stringText s rest := by
  have within : '\n' ∉ s.toList.flatMap charText := by
    rw [List.mem_flatMap]
    rintro ⟨c, _, member⟩
    exact charText_oneLine c member
  exact oneLine_cons (by decide) (oneLine_append within (oneLine_cons (by decide) ends))

theorem number_oneLine (n : Number) : '\n' ∉ n.chars := by
  cases n with
  | integer n => exact Decimal.chars_oneLine n
  | decimal negative significand exponent =>
    have sign : '\n' ∉ if negative then ['-'] else [] := by cases negative <;> decide
    exact oneLine_append (oneLine_append sign (Decimal.digits_oneLine significand))
      (oneLine_cons (by decide) (Decimal.chars_oneLine exponent))

mutual

theorem render_oneLine (json : Json) {rest : List Char} (ends : '\n' ∉ rest) :
    '\n' ∉ json.render rest := by
  match json with
  | .null | .bool true | .bool false => exact oneLine_append (by decide) ends
  | .number n => exact oneLine_append (number_oneLine n) ends
  | .string s => exact stringText_oneLine s ends
  | .array [] | .object [] => exact oneLine_cons (by decide) (oneLine_cons (by decide) ends)
  | .array (first :: others) =>
    have closed := renderItems_oneLine others (oneLine_cons (c := ']') (by decide) ends)
    exact oneLine_cons (by decide) (render_oneLine first closed)
  | .object ((key, value) :: others) =>
    have closed := renderMembers_oneLine others (oneLine_cons (c := '\x7d') (by decide) ends)
    exact oneLine_cons (by decide)
      (stringText_oneLine key (oneLine_cons (by decide) (render_oneLine value closed)))
termination_by structural json

theorem renderItems_oneLine (items : List Json) {rest : List Char} (ends : '\n' ∉ rest) :
    '\n' ∉ renderItems items rest := by
  match items with
  | [] => exact ends
  | first :: others =>
    exact oneLine_cons (by decide) (render_oneLine first (renderItems_oneLine others ends))
termination_by structural items

theorem renderMembers_oneLine (members : List (String × Json)) {rest : List Char}
    (ends : '\n' ∉ rest) : '\n' ∉ renderMembers members rest := by
  match members with
  | [] => exact ends
  | (key, value) :: others =>
    have behind := render_oneLine value (renderMembers_oneLine others ends)
    exact oneLine_cons (by decide) (stringText_oneLine key (oneLine_cons (by decide) behind))
termination_by structural members

end

theorem compact_oneLine (json : Json) : '\n' ∉ json.compact.toList := by
  rw [compact, String.toList_ofList]
  exact json.render_oneLine List.not_mem_nil

end Json

namespace Outcome

theorem text_oneLine (outcome : Outcome) : '\n' ∉ outcome.text.toList := by
  cases outcome with
  | value v =>
    have printed : (text (.value v)).toList =
        "value: ".toList ++ (v.type.text.toList ++ (" ".toList ++ Decimal.chars v.toInt)) := by
      simp [text, Value.text, Decimal.text]
    rw [printed]
    refine oneLine_append (by decide) (oneLine_append ?_ (oneLine_append (by decide) ?_))
    · cases v.type <;> decide
    · exact Decimal.chars_oneLine _
  | empty | trapped => decide

end Outcome

end FrameMachine
