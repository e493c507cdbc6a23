import FrameMachine.FunctionBody.Json

/-! Decoding undoes encoding. An instruction is encoded as an object that names its operation and
leaves out the operands it lacks; decoding finds the operation by its name, the operands by their
keys, and puts absence where nothing was given. -/

namespace FrameMachine

namespace Json

theorem int64?_ofInt (n : Int64) : (ofInt n.toInt).int64? = some n := by
  have lower : Int64.minValue.toInt ≤ n.toInt := Int64.minValue_le_toInt n
  have upper : n.toInt ≤ Int64.maxValue.toInt := Int64.toInt_le n
  rw [ofInt, int64?, if_pos ⟨lower, upper⟩, Int64.ofInt_toInt]

theorem uint64?_ofNat (n : UInt64) : (ofNat n.toNat).uint64? = some n := by
  have small : n.toNat < UInt64.size := n.toNat_lt
  rw [ofNat, uint64?, if_pos (by omega), Int.toNat_natCast, UInt64.ofNat_toNat]

variable {α : Type} (read : Json → Option α)

theorem optional?_ofInt (n : Int) : (ofInt n).optional? read = (read (ofInt n)).map some := rfl

theorem optional?_ofNat (n : Nat) : (ofNat n).optional? read = (read (ofNat n)).map some := rfl

theorem optional?_object (members : List (String × Json)) :
    (object members).optional? read = (read (object members)).map some := rfl

end Json

theorem Operation.id_not_mem_fields (operation : Operation) : "id" ∉ operation.fields := by
  cases operation <;> simp [fields]

namespace Instruction

theorem decode_named (inside : Bool) (name : String) {members : List (String × Json)}
    (others : ∀ member ∈ members, member.1 ≠ "id") :
    decode inside (.object (("id", .string name) :: members)) =
      (decodeMembers (.ofName name) .none members).map fun operands =>
        operands.instruction (.ofName name) := by
  have unnamed : members.filter (fun member => member.1 = "id") = [] := by
    rw [List.filter_eq_nil_iff]
    intro member present
    simpa using others member present
  have found : Json.field? "id" (("id", .string name) :: members) = some (some (.string name)) := by
    simp [Json.field?, unnamed]
  simp only [decode, found, Option.bind_eq_bind, Option.bind_some, Operation.ofJson?, decodeMembers,
    Operation.id_not_mem_fields, if_false]
  cases decodeMembers (.ofName name) .none members <;> rfl

theorem toJson_object (instruction : Instruction) : ∃ members, instruction.toJson = .object members := by
  cases instruction with
  | const value | getLocal value => cases value <;> exact ⟨_, by rw [toJson]⟩
  | nop | loop | trap | setLocal | binary | unknown => exact ⟨_, by rw [toJson]⟩

theorem decodeMembers_index (index : Option UInt64) (rest : List (String × Json)) :
    decodeMembers .setLocal .none (indexMember index ++ rest) =
      decodeMembers .setLocal { Operands.none with index := index.map some } rest := by
  cases index with
  | none => rfl
  | some i =>
    simp [indexMember, decodeMembers, Operation.fields, Operands.give?, Operands.none,
      Json.optional?_ofNat, Json.uint64?_ofNat]

theorem assignment_members (index : Option UInt64) (init : Option Instruction) :
    ∀ member ∈ indexMember index ++ initMember init, member.1 ≠ "id" := by
  cases index <;> cases init <;> simp [indexMember, initMember]

mutual

theorem decode_toJson (inside : Bool) (instruction : Instruction) :
    decode inside instruction.toJson = some instruction := by
  match instruction with
  | .nop | .trap | .unknown | .const none | .getLocal none =>
    rw [toJson, decode_named inside _ (by simp)]
    rfl
  | .binary operator =>
    cases operator <;> rw [toJson, decode_named inside _ (by simp)] <;> rfl
  | .const (some n) =>
    rw [toJson, decode_named inside _ (by simp)]
    simp [Operation.ofName, decodeMembers, Operation.fields, Operands.give?, Operands.none,
      Json.optional?_ofInt, Json.int64?_ofInt, Operands.instruction]
  | .getLocal (some i) =>
    rw [toJson, decode_named inside _ (by simp)]
    simp [Operation.ofName, decodeMembers, Operation.fields, Operands.give?, Operands.none,
      Json.optional?_ofNat, Json.uint64?_ofNat, Operands.instruction]
  | .loop body =>
    rw [toJson, decode_named inside _ (by simp)]
    simp [Operation.ofName, decodeMembers, Operation.fields, Operands.give?, Operands.none,
      decodeBody, decodeList_listToJson body, Operands.instruction]
  | .setLocal index none =>
    rw [toJson, decode_named inside _ (assignment_members index none)]
    change (decodeMembers .setLocal .none (indexMember index ++ [])).map _ = _
    rw [decodeMembers_index]
    cases index <;> rfl
  | .setLocal index (some init) =>
    have initialized := decode_toJson true init
    obtain ⟨members, object⟩ := init.toJson_object
    rw [toJson, decode_named inside _ (assignment_members index (some init))]
    change (decodeMembers .setLocal .none (indexMember index ++ [("init", init.toJson)])).map _ = _
    rw [decodeMembers_index]
    rw [object] at initialized ⊢
    cases index <;>
      simp [decodeMembers, Operation.fields, Operands.give?, Operands.none, Json.optional?_object,
        initialized, Operands.instruction, Operation.ofName]
termination_by structural instruction

theorem decodeList_listToJson (code : List Instruction) :
    decodeList (listToJson code) = some code := by
  match code with
  | [] => rfl
  | first :: rest =>
    rw [listToJson, decodeList, decode_toJson true first, decodeList_listToJson rest]
    rfl
termination_by structural code

end

theorem ofJson?_toJson (instruction : Instruction) : ofJson? instruction.toJson = some instruction :=
  decode_toJson false instruction

end Instruction

theorem Json.Tagged.ofJson?_toJson (tag : String) (content : Option Json) :
    Tagged.ofJson? (Tagged.toJson tag content) = some ⟨.string tag, content, .tagFirst⟩ := by
  cases content <;> rfl

theorem ValueType.ofText?_text (type : ValueType) : ofText? type.text = some type := by
  cases type <;> rfl

theorem ValueType.ofJson?_toJson (type : ValueType) : ofJson? type.toJson = some type :=
  ofText?_text type

namespace Value

theorem ofInt?_toInt (v : Value) : ofInt? v.type v.toInt = some v := by
  cases v with
  | i32 n =>
    have lower : Int32.minValue.toInt ≤ n.toInt := Int32.minValue_le_toInt n
    have upper : n.toInt ≤ Int32.maxValue.toInt := Int32.toInt_le n
    rw [type, toInt, ofInt?, if_pos ⟨lower, upper⟩, Int32.ofInt_toInt]
  | i64 n =>
    have lower : Int64.minValue.toInt ≤ n.toInt := Int64.minValue_le_toInt n
    have upper : n.toInt ≤ Int64.maxValue.toInt := Int64.toInt_le n
    rw [type, toInt, ofInt?, if_pos ⟨lower, upper⟩, Int64.ofInt_toInt]

theorem decode_toJson (setAside : Bool) (v : Value) : decode setAside v.toJson = some v := by
  rw [toJson, decode, Json.Tagged.ofJson?_toJson]
  change (ValueType.ofText? v.type.text).bind _ = _
  rw [ValueType.ofText?_text]
  exact ofInt?_toInt v

theorem ofJson?_toJson (v : Value) : ofJson? v.toJson = some v := decode_toJson false v

end Value

theorem Outcome.ofJson?_toJson (outcome : Outcome) : ofJson? outcome.toJson = some outcome := by
  cases outcome with
  | value v =>
    rw [toJson, ofJson?, Json.Tagged.ofJson?_toJson]
    change (Value.decode false v.toJson).map _ = _
    rw [Value.decode_toJson]
    rfl
  | empty | trapped => rfl

/-- A list of things that can each be decoded can be. -/
theorem Json.list?_map {α : Type} {encode : α → Json} {decode : Json → Option α}
    (undone : ∀ x, decode (encode x) = some x) (xs : List α) :
    (array (xs.map encode)).list? decode = some xs := by
  rw [list?]
  induction xs with
  | nil => rfl
  | cons x xs ih =>
    rw [List.map_cons, List.mapM_cons, undone, ih]
    rfl

theorem Instruction.listToJson_eq_map (code : List Instruction) :
    listToJson code = code.map toJson := by
  induction code with
  | nil => rfl
  | cons first rest ih => rw [listToJson, ih, List.map_cons]

theorem FunctionBody.ofJson?_toJson (body : FunctionBody) : ofJson? body.toJson = some body := by
  obtain ⟨params, locals, code⟩ := body
  have values := Json.list?_map Value.ofJson?_toJson params
  have types := Json.list?_map ValueType.ofJson?_toJson locals
  have instructions := Json.list?_map Instruction.ofJson?_toJson code
  rw [← Instruction.listToJson_eq_map] at instructions
  change ofParts? (some _) (some _) (some _) = _
  simp only [ofParts?, Option.getD_some, values, types, instructions, Option.bind_eq_bind,
    Option.bind_some]
  rfl

/-- Whatever is encoded decodes to itself: instructions of every nesting and with any operands absent,
the unknown one included, and likewise values, types, outcomes and function bodies. -/
theorem Json.decode_encode :
    (∀ instruction : Instruction, Instruction.ofJson? instruction.toJson = some instruction) ∧
    (∀ v : Value, Value.ofJson? v.toJson = some v) ∧
    (∀ type : ValueType, ValueType.ofJson? type.toJson = some type) ∧
    (∀ outcome : Outcome, Outcome.ofJson? outcome.toJson = some outcome) ∧
    ∀ body : FunctionBody, FunctionBody.ofJson? body.toJson = some body :=
  ⟨Instruction.ofJson?_toJson, Value.ofJson?_toJson, ValueType.ofJson?_toJson,
    Outcome.ofJson?_toJson, FunctionBody.ofJson?_toJson⟩

end FrameMachine
