import FrameMachine.Proofs.Decoding

/-! The forms of JSON that give fields by position agree with those that name them. An instruction may be
an array of its name and its fields, where the last ones may be left out, a value and an outcome may be
a pair of tag and content, and a body an array of its three parts. Only the tag of a pair has fewer
forms: written as an object it is understood in the named form alone. -/

namespace FrameMachine

namespace Instruction

/-- Reading fields by position is reading them under the keys that stand at their positions. -/
theorem decodeItems_eq_decodeMembers {operation : Operation} {keys : List String}
    (own : ∀ key ∈ keys, key ∈ operation.fields) {items : List Json}
    (enough : items.length ≤ keys.length) (operands : Operands) :
    decodeItems keys operands items = decodeMembers operation operands (keys.zip items) := by
  induction items generalizing keys operands with
  | nil => rw [List.zip_nil_right, decodeItems, decodeMembers]
  | cons json rest ih =>
    cases keys with
    | nil => exact absurd enough (Nat.not_succ_le_zero _)
    | cons key keys =>
      have fewer : rest.length ≤ keys.length := Nat.le_of_succ_le_succ enough
      have later : ∀ key ∈ keys, key ∈ operation.fields :=
        fun key member => own key (List.mem_cons_of_mem _ member)
      rw [decodeItems, List.zip_cons_cons, decodeMembers, if_pos (own key List.mem_cons_self)]
      congr 1
      funext operands
      exact ih later fewer operands

theorem decodeItems_surplus {keys : List String} {items : List Json}
    (surplus : keys.length < items.length) (operands : Operands) :
    decodeItems keys operands items = none := by
  induction items generalizing keys operands with
  | nil => exact absurd surplus (Nat.not_lt_zero _)
  | cons json rest ih =>
    cases keys with
    | nil => rw [decodeItems]
    | cons key keys =>
      have left : keys.length < rest.length := Nat.lt_of_succ_lt_succ surplus
      rw [decodeItems]
      cases operands.give? key json (fun _ => decodeBody json) (fun _ => decode true json) with
      | none => rfl
      | some operands => exact ih left operands

theorem decode_positional (inside : Bool) (name : String) (items : List Json) :
    decode inside (.array (.string name :: items)) =
      (decodeItems (Operation.ofName name).fields .none items).map fun operands =>
        operands.instruction (.ofName name) := by
  simp only [decode, Operation.ofJson?, Option.bind_eq_bind, Option.bind_some]
  cases decodeItems (Operation.ofName name).fields .none items <;> rfl

/-- An array with at most as many items as the operation has fields is the object that names them. -/
theorem decode_positional_eq_named (inside : Bool) (name : String) {items : List Json}
    (enough : items.length ≤ (Operation.ofName name).fields.length) :
    decode inside (.array (.string name :: items)) =
      decode inside (.object (("id", .string name) :: (Operation.ofName name).fields.zip items)) := by
  have unnamed : ∀ member ∈ (Operation.ofName name).fields.zip items, member.1 ≠ "id" := by
    intro member present same
    have own : member.1 ∈ (Operation.ofName name).fields := (List.of_mem_zip present).1
    rw [same] at own
    exact (Operation.ofName name).id_not_mem_fields own
  rw [decode_positional, decode_named inside name unnamed,
    decodeItems_eq_decodeMembers (fun _ own => own) enough]

theorem decode_positional_surplus (inside : Bool) (name : String) {items : List Json}
    (surplus : (Operation.ofName name).fields.length < items.length) :
    decode inside (.array (.string name :: items)) = none := by
  rw [decode_positional, decodeItems_surplus surplus]
  rfl

end Instruction

namespace Json

/-- A tag that is not written as an object gives the same name in a pair and under its key. -/
theorem pairName?_eq_tagName? (names : List String) {tag : Json}
    (bare : ∀ name, tag ≠ .object [(name, .null)]) :
    tag.pairName? false names = tag.tagName? false := by
  cases tag with
  | null | bool | string | array => rfl
  | number n =>
    cases n with
    | integer n =>
      rw [pairName?, if_neg fun position => Bool.false_ne_true position.1]
      rfl
    | decimal => rfl
  | object members =>
    change none = tagName? false (.object members)
    rw [tagName?.eq_def]
    split
    next same => cases same
    next name same => exact absurd same (bare name)
    next => rfl
    next => rfl

end Json

theorem Value.ofJson?_pair {tag : Json} (bare : ∀ name, tag ≠ .object [(name, .null)]) (content : Json) :
    ofJson? (.array [tag, content]) = ofJson? (.object [("t", tag), ("v", content)]) := by
  change ((tag.pairName? false ValueType.names).bind _ : Option Value) =
    (tag.tagName? false).bind _
  rw [Json.pairName?_eq_tagName? _ bare]

theorem Outcome.ofJson?_pair {tag : Json} (bare : ∀ name, tag ≠ .object [(name, .null)])
    (content : Json) :
    ofJson? (.array [tag, content]) = ofJson? (.object [("t", tag), ("v", content)]) := by
  change ((tag.pairName? false names).bind _ : Option Outcome) = (tag.tagName? false).bind _
  rw [Json.pairName?_eq_tagName? _ bare]
  rfl

/-- What is given by position decodes as what is given by name, and fails where it fails. For an
instruction, alone or inside another one, the array names the operation and goes through its fields
in order, as far as wanted; with more items than fields it fails. The two forms of a value and of an
outcome agree unless the tag is an object with one member, which holds null: this is its key in the
named form and an error in the pair. The array of the three parts of a body is the body. -/
theorem Json.positional_forms :
    (∀ (inside : Bool) (name : String) (items : List Json),
      let fields := (Operation.ofName name).fields
      (items.length ≤ fields.length →
        Instruction.decode inside (.array (.string name :: items)) =
          Instruction.decode inside (.object (("id", .string name) :: fields.zip items))) ∧
      (fields.length < items.length →
        Instruction.decode inside (.array (.string name :: items)) = none)) ∧
    (∀ tag content : Json, (∀ name, tag ≠ .object [(name, .null)]) →
      Value.ofJson? (.array [tag, content]) = Value.ofJson? (.object [("t", tag), ("v", content)]) ∧
      Outcome.ofJson? (.array [tag, content]) =
        Outcome.ofJson? (.object [("t", tag), ("v", content)])) ∧
    (∀ (name : String) (content : Json),
      let tag : Json := .object [(name, .null)]
      Value.ofJson? (.array [tag, content]) = none ∧
      Value.ofJson? (.object [("t", tag), ("v", content)]) =
        Value.ofJson? (.object [("t", .string name), ("v", content)]) ∧
      Outcome.ofJson? (.array [tag, content]) = none ∧
      Outcome.ofJson? (.object [("t", tag), ("v", content)]) =
        Outcome.ofJson? (.object [("t", .string name), ("v", content)])) ∧
    ∀ params locals code : Json,
      FunctionBody.ofJson? (.array [params, locals, code]) =
        FunctionBody.ofJson? (.object [("params", params), ("locals", locals), ("code", code)]) := by
  refine ⟨fun inside name items => ?_, fun tag content bare => ?_, fun name content => ?_,
    fun params locals code => rfl⟩
  · exact ⟨Instruction.decode_positional_eq_named inside name,
      Instruction.decode_positional_surplus inside name⟩
  · exact ⟨Value.ofJson?_pair bare content, Outcome.ofJson?_pair bare content⟩
  · exact ⟨rfl, rfl, rfl, rfl⟩

/-- An assignment with an initializer that is itself given by position, an instruction with too many
items, and a pair whose content is out of range. -/
theorem Json.positional_forms_nested :
    Instruction.ofJson? (.array [.string "set_local", .ofNat 3, .array [.string "i32.const", .ofInt 5]]) =
        Instruction.ofJson? (.object [("id", .string "set_local"), ("index", .ofNat 3),
          ("init", .array [.string "i32.const", .ofInt 5])]) ∧
      Instruction.ofJson? (.array [.string "br", .ofNat 1]) = none ∧
      Value.ofJson? (.array [.string "i32", .ofInt 2147483648]) =
        Value.ofJson? (.object [("t", .string "i32"), ("v", .ofInt 2147483648)]) := by
  obtain ⟨instructions, pairs, -⟩ := Json.positional_forms
  refine ⟨?_, ?_, ?_⟩
  · exact (instructions false "set_local" [.ofNat 3, .array [.string "i32.const", .ofInt 5]]).1 (by decide)
  · exact (instructions false "br" [.ofNat 1]).2 (by decide)
  · exact (pairs (.string "i32") (.ofInt 2147483648) (by intro name same; cases same)).1

/-- A type that is written as an object is the tag of a value only where the tag is named. -/
theorem Json.positional_forms_object_tag :
    Value.ofJson? (.array [.object [("i32", .null)], .ofInt 5]) = none ∧
      Value.ofJson? (.object [("t", .object [("i32", .null)]), ("v", .ofInt 5)]) = some (.i32 5) := by
  exact ⟨rfl, by decide⟩

end FrameMachine
