import FrameMachine.Json.Syntax
import FrameMachine.Proofs.JsonTokens

/-! The tree of printed JSON. The tokens of a value lead back to the value, container by container, and
reading asks only for room: as many containers as are open at once at the deepest place. A shape makes
no difference as long as it knows every member that is there. -/

namespace FrameMachine.Json

mutual

/-- The number of containers around each other at the deepest place of a value. -/
def height : Json → Nat
  | .array items => itemsHeight items + 1
  | .object members => membersHeight members + 1
  | _ => 0

def itemsHeight : List Json → Nat
  | [] => 0
  | first :: rest => max (height first) (itemsHeight rest)

def membersHeight : List (String × Json) → Nat
  | [] => 0
  | (_, value) :: rest => max (height value) (membersHeight rest)

end

namespace Syntax

mutual

def ofJson : Json → Syntax
  | .null => .null
  | .bool b => .bool b
  | .number n => .number n
  | .string s => .string (some s)
  | .array items => .array (ofItems items)
  | .object members => .object (ofMembers members)

def ofItems : List Json → List Syntax
  | [] => []
  | first :: rest => ofJson first :: ofItems rest

def ofMembers : List (String × Json) → List (Option String × Syntax)
  | [] => []
  | (key, value) :: rest => (some key, ofJson value) :: ofMembers rest

end

namespace Cursor

theorem follow_cons {cursor next : Cursor} {token : Token} {rest : List Token}
    (advances : cursor.advance token = some next) : cursor.follow (token :: rest) = next.follow rest := by
  rw [follow, advances]

/-- A value does not start like the end of an array, so the first item is read like any other. -/
theorem follow_firstItem (json : Json) (enclosing : List Container) (later : List Token) :
    follow ⟨enclosing, .firstItem⟩ (json.tokens ++ later) =
      follow ⟨enclosing, .value⟩ (json.tokens ++ later) := by
  cases json with
  | null | bool | number | string => rfl
  | array items => cases items <;> rfl
  | object members => cases members <;> rfl

mutual

/-- Where a value may stand, its tokens lead to the place behind it. -/
theorem follow_tokens (json : Json) {enclosing : List Container} {next : Cursor}
    (completes : complete (ofJson json) enclosing = some next) (later : List Token) :
    follow ⟨enclosing, .value⟩ (json.tokens ++ later) = next.follow later := by
  match json with
  | .null | .bool _ | .number _ | .string _ => exact follow_cons completes
  | .array [] =>
    rw [tokens, List.cons_append, follow_cons rfl]
    exact follow_cons completes
  | .array (first :: others) =>
    have inner : complete (ofJson first) (.array [] :: enclosing) =
        some ⟨.array [ofJson first] :: enclosing, .afterItem⟩ := rfl
    rw [tokens, List.cons_append, follow_cons rfl, List.append_assoc, follow_firstItem,
      follow_tokens first inner, List.append_assoc]
    exact follow_itemTokens others [ofJson first] completes later
  | .object [] =>
    rw [tokens, List.cons_append, follow_cons rfl]
    exact follow_cons completes
  | .object ((key, value) :: others) =>
    have inner : complete (ofJson value) (.member [] (some key) :: enclosing) =
        some ⟨.object [(some key, ofJson value)] :: enclosing, .afterMember⟩ := rfl
    simp only [tokens, List.cons_append, List.append_assoc]
    rw [follow_cons rfl, follow_cons rfl, follow_cons rfl, follow_tokens value inner]
    exact follow_memberTokens others [(some key, ofJson value)] completes later
termination_by structural json

theorem follow_itemTokens (items : List Json) (done : List Syntax) {outer : List Container}
    {next : Cursor} (completes : complete (.array (done.reverse ++ ofItems items)) outer = some next)
    (later : List Token) :
    follow ⟨.array done :: outer, .afterItem⟩ (itemTokens items ++ .closeArray :: later) =
      next.follow later := by
  match items with
  | [] =>
    rw [ofItems, List.append_nil] at completes
    exact follow_cons completes
  | first :: others =>
    have inner : complete (ofJson first) (.array done :: outer) =
        some ⟨.array (ofJson first :: done) :: outer, .afterItem⟩ := rfl
    have remaining : complete (.array ((ofJson first :: done).reverse ++ ofItems others)) outer =
        some next := by
      rw [← completes]
      simp [ofItems]
    rw [itemTokens, List.cons_append, follow_cons rfl, List.append_assoc, follow_tokens first inner]
    exact follow_itemTokens others _ remaining later
termination_by structural items

theorem follow_memberTokens (members : List (String × Json)) (done : List (Option String × Syntax))
    {outer : List Container} {next : Cursor}
    (completes : complete (.object (done.reverse ++ ofMembers members)) outer = some next)
    (later : List Token) :
    follow ⟨.object done :: outer, .afterMember⟩ (memberTokens members ++ .closeObject :: later) =
      next.follow later := by
  match members with
  | [] =>
    rw [ofMembers, List.append_nil] at completes
    exact follow_cons completes
  | (key, value) :: others =>
    have inner : complete (ofJson value) (.member done (some key) :: outer) =
        some ⟨.object ((some key, ofJson value) :: done) :: outer, .afterMember⟩ := rfl
    have remaining : complete (.object (((some key, ofJson value) :: done).reverse ++ ofMembers others))
        outer = some next := by
      rw [← completes]
      simp [ofMembers]
    simp only [memberTokens, List.cons_append, List.append_assoc]
    rw [follow_cons rfl, follow_cons rfl, follow_cons rfl, follow_tokens value inner]
    exact follow_memberTokens others _ remaining later
termination_by structural members

end

end Cursor

theorem ofText?_compact {json : Json} (exact : json.Exact) :
    Syntax.ofText? json.compact = some (ofJson json) := by
  have finished : Cursor.complete (ofJson json) [] = some ⟨[], .finished (ofJson json)⟩ := rfl
  have followed := Cursor.follow_tokens json finished []
  rw [List.append_nil] at followed
  rw [Syntax.ofText?, tokens_compact exact]
  exact followed

namespace Shape

mutual

def Covers (shape : Shape) : Json → Prop
  | .array items => shape.CoversItems items
  | .object members => shape.CoversMembers members
  | _ => True

def CoversItems (shape : Shape) : List Json → Prop
  | [] => True
  | first :: rest => shape.items.1.Covers first ∧ shape.items.2.CoversItems rest

def CoversMembers (shape : Shape) : List (String × Json) → Prop
  | [] => True
  | (key, value) :: rest =>
    (∃ inner, shape.member? key = some inner ∧ inner.Covers value) ∧ shape.CoversMembers rest

end

mutual

theorem whole_covers (json : Json) : whole.Covers json := by
  match json with
  | .null | .bool _ | .number _ | .string _ => trivial
  | .array items => exact whole_coversItems items
  | .object members => exact whole_coversMembers members
termination_by structural json

theorem whole_coversItems (items : List Json) : whole.CoversItems items := by
  match items with
  | [] => trivial
  | first :: rest => exact ⟨whole_covers first, whole_coversItems rest⟩
termination_by structural items

theorem whole_coversMembers (members : List (String × Json)) : whole.CoversMembers members := by
  match members with
  | [] => trivial
  | (key, value) :: rest => exact ⟨⟨whole, rfl, whole_covers value⟩, whole_coversMembers rest⟩
termination_by structural members

end

end Shape

/-- Two parts that are each read if there is room for them are read if there is room for the higher
one. -/
theorem read_parts {α β γ : Type} (make : α → β → γ) (first : α) (rest : β) (low high room : Nat) :
    ((if low ≤ room then some first else none) >>= fun item =>
      (if high ≤ room then some rest else none) >>= fun others => pure (make item others)) =
      if max low high ≤ room then some (make first rest) else none := by
  simp only [Nat.max_le]
  by_cases here : low ≤ room <;> by_cases later : high ≤ room <;> simp [here, later]

mutual

theorem read?_ofJson (json : Json) (exact : json.Exact) {shape : Shape} (covers : shape.Covers json)
    (room : Nat) : read? shape room (ofJson json) = if json.height ≤ room then some json else none := by
  match json with
  | .null | .bool _ | .string _ => rfl
  | .number (.integer n) => rfl
  | .number (.decimal ..) => exact exact.elim
  | .array items =>
    cases room with
    | zero => rfl
    | succ room =>
      have inner := readItems?_ofItems items exact covers room
      rw [ofJson, read?, inner, height]
      by_cases fits : itemsHeight items ≤ room <;> simp [fits]
  | .object members =>
    cases room with
    | zero => rfl
    | succ room =>
      have inner := readMembers?_ofMembers members exact covers room
      rw [ofJson, read?, inner, height]
      by_cases fits : membersHeight members ≤ room <;> simp [fits]
termination_by structural json

theorem readItems?_ofItems (items : List Json) (exact : ExactItems items) {shape : Shape}
    (covers : shape.CoversItems items) (room : Nat) :
    readItems? shape room (ofItems items) = if itemsHeight items ≤ room then some items else none := by
  match items with
  | [] => rfl
  | first :: rest =>
    rw [ofItems, readItems?, read?_ofJson first exact.1 covers.1, readItems?_ofItems rest exact.2 covers.2,
      itemsHeight]
    exact read_parts List.cons first rest first.height (itemsHeight rest) room
termination_by structural items

theorem readMembers?_ofMembers (members : List (String × Json)) (exact : ExactMembers members)
    {shape : Shape} (covers : shape.CoversMembers members) (room : Nat) :
    readMembers? shape room (ofMembers members) =
      if membersHeight members ≤ room then some members else none := by
  match members with
  | [] => rfl
  | (key, value) :: rest =>
    obtain ⟨⟨inner, known, here⟩, later⟩ := covers
    rw [ofMembers, readMembers?]
    simp only [known]
    rw [read?_ofJson value exact.1 here, readMembers?_ofMembers rest exact.2 later, membersHeight]
    exact read_parts (fun value others => (key, value) :: others) value rest value.height
      (membersHeight rest) room
termination_by structural members

end

end Syntax

/-- Printed text is read as the value it was printed from, unless too many containers are open. -/
theorem ofText?_compact {json : Json} (exact : json.Exact) {shape : Syntax.Shape}
    (covers : shape.Covers json) :
    ofText? shape json.compact = if json.height ≤ Syntax.maxOpen then some json else none := by
  rw [ofText?, Syntax.ofText?_compact exact]
  exact Syntax.read?_ofJson json exact covers Syntax.maxOpen

end FrameMachine.Json
