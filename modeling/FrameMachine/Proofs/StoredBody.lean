import FrameMachine.Proofs.Decoding
import FrameMachine.Proofs.JsonTree

/-! Function bodies as they are stored. The text of a body is read back as that body exactly if no more
containers are open in it at once than a reader allows. How many are open is counted in the text itself,
from bracket to bracket, with what stands in strings left out. -/

namespace FrameMachine

namespace Json

/-- Whether a place in JSON text is inside a string, and there right behind a backslash. -/
inductive Quoting where
  | outside
  | inside
  | escaping
deriving DecidableEq

namespace Quoting

def next : Quoting → Char → Quoting
  | .outside, c => if c = '"' then .inside else .outside
  | .inside, c => if c = '"' then .outside else if c = '\\' then .escaping else .inside
  | .escaping, _ => .inside

def count (quoting : Quoting) (now : Nat) (c : Char) : Nat :=
  if quoting ≠ .outside then now
  else if c = '[' ∨ c = '\x7b' then now + 1
  else if c = ']' ∨ c = '\x7d' then now - 1
  else now

end Quoting

def mostOpenFrom (quoting : Quoting) (now : Nat) : List Char → Nat
  | [] => now
  | c :: rest => max now (mostOpenFrom (quoting.next c) (quoting.count now c) rest)

/-- The largest number of arrays and objects that are open at once in JSON text. -/
def mostOpen (text : String) : Nat := mostOpenFrom .outside 0 text.toList

theorem le_mostOpenFrom (quoting : Quoting) (now : Nat) (cs : List Char) :
    now ≤ mostOpenFrom quoting now cs := by
  cases cs with
  | nil => exact Nat.le_refl now
  | cons c rest => exact Nat.le_max_left _ _

theorem mostOpenFrom_same {quoting : Quoting} {now : Nat} {c : Char} (rest : List Char)
    (same : quoting.count now c = now) :
    mostOpenFrom quoting now (c :: rest) = mostOpenFrom (quoting.next c) now rest := by
  rw [mostOpenFrom, same]
  exact Nat.max_eq_right (le_mostOpenFrom _ now rest)

def isPlain (c : Char) : Bool := c ∉ ['"', '[', ']', '\x7b', '\x7d']

theorem mostOpenFrom_plain {cs : List Char} (plain : ∀ c ∈ cs, isPlain c = true) (now : Nat)
    (rest : List Char) : mostOpenFrom .outside now (cs ++ rest) = mostOpenFrom .outside now rest := by
  induction cs with
  | nil => rfl
  | cons c cs ih =>
    have here := plain c List.mem_cons_self
    simp only [isPlain, List.mem_cons, not_or, List.not_mem_nil, not_false_eq_true, and_true,
      decide_eq_true_eq] at here
    obtain ⟨quote, opens, closes, openBrace, closeBrace⟩ := here
    have same : Quoting.outside.count now c = now := by simp [Quoting.count, *]
    have outside : Quoting.outside.next c = .outside := if_neg quote
    rw [List.cons_append, mostOpenFrom_same _ same, outside]
    exact ih fun c member => plain c (List.mem_cons_of_mem _ member)

theorem mostOpenFrom_word {word : String} (plain : word.toList.all isPlain = true) (now : Nat)
    (rest : List Char) :
    mostOpenFrom .outside now (word.toList ++ rest) = mostOpenFrom .outside now rest :=
  mostOpenFrom_plain (List.all_eq_true.mp plain) now rest

theorem mostOpenFrom_inside (now : Nat) (c : Char) (rest : List Char) :
    mostOpenFrom .inside now (c :: rest) = mostOpenFrom (Quoting.inside.next c) now rest :=
  mostOpenFrom_same rest rfl

theorem mostOpenFrom_escaped (now : Nat) (c : Char) (rest : List Char) :
    mostOpenFrom .inside now ('\\' :: c :: rest) = mostOpenFrom .inside now rest := by
  rw [mostOpenFrom_inside]
  exact mostOpenFrom_same rest rfl

theorem hexChar_inside {n : Nat} (small : n < 16) : Quoting.inside.next (hexChar n) = .inside := by
  have checked : ∀ d < 16, Quoting.inside.next (hexChar d) = .inside := by decide
  exact checked n small

/-- An escaped quote does not end a string. -/
theorem mostOpenFrom_charText (now : Nat) (c : Char) (rest : List Char) :
    mostOpenFrom .inside now (charText c ++ rest) = mostOpenFrom .inside now rest := by
  unfold charText
  split
  iterate 7 exact mostOpenFrom_escaped now _ rest
  next quote backslash _ _ _ _ _ =>
    split
    next control =>
      have high := hexChar_inside (n := c.toNat / 16) (by omega)
      have low := hexChar_inside (n := c.toNat % 16) (by omega)
      have zero : Quoting.inside.next '0' = .inside := rfl
      simp only [List.cons_append, List.nil_append]
      rw [mostOpenFrom_escaped, mostOpenFrom_inside, zero, mostOpenFrom_inside, zero,
        mostOpenFrom_inside, high, mostOpenFrom_inside, low]
    next printable =>
      have plain : Quoting.inside.next c = .inside := by
        rw [Quoting.next, if_neg quote, if_neg backslash]
      rw [List.singleton_append, mostOpenFrom_inside, plain]

theorem mostOpenFrom_stringText (now : Nat) (s : String) (rest : List Char) :
    mostOpenFrom .outside now (stringText s rest) = mostOpenFrom .outside now rest := by
  have within : ∀ cs : List Char,
      mostOpenFrom .inside now (cs.flatMap charText ++ '"' :: rest) = mostOpenFrom .outside now rest := by
    intro cs
    induction cs with
    | nil => exact mostOpenFrom_inside now '"' rest
    | cons c cs ih => rw [List.flatMap_cons, List.append_assoc, mostOpenFrom_charText, ih]
  rw [stringText, mostOpenFrom_same _ rfl]
  exact within s.toList

theorem chars_plain (n : Int) : ∀ c ∈ Decimal.chars n, isPlain c = true := by
  have digits : ∀ c : Char, c.isDigit = true → isPlain c = true := by
    intro c digit
    rw [isPlain, decide_eq_true_eq]
    intro special
    simp only [List.mem_cons, List.not_mem_nil, or_false] at special
    rcases special with rfl | rfl | rfl | rfl | rfl <;> cases digit
  intro c member
  cases n with
  | ofNat n => exact digits c (Decimal.digits_isDigit member)
  | negSucc n =>
    rcases List.mem_cons.mp member with rfl | member
    · rfl
    · exact digits c (Decimal.digits_isDigit member)

theorem mostOpenFrom_open {c : Char} (opens : c = '[' ∨ c = '\x7b') (now : Nat) (rest : List Char) :
    mostOpenFrom .outside now (c :: rest) = mostOpenFrom .outside (now + 1) rest := by
  have more : now ≤ mostOpenFrom .outside (now + 1) rest :=
    Nat.le_of_succ_le (le_mostOpenFrom .outside (now + 1) rest)
  rcases opens with rfl | rfl <;> exact Nat.max_eq_right more

theorem mostOpenFrom_close {c : Char} (closes : c = ']' ∨ c = '\x7d') (now : Nat) (rest : List Char) :
    mostOpenFrom .outside (now + 1) (c :: rest) = max (now + 1) (mostOpenFrom .outside now rest) := by
  rcases closes with rfl | rfl <;> rfl

mutual

theorem mostOpenFrom_render (json : Json) (exact : json.Exact) (now : Nat) (rest : List Char) :
    mostOpenFrom .outside now (json.render rest) =
      max (now + json.height) (mostOpenFrom .outside now rest) := by
  have low := le_mostOpenFrom .outside now rest
  match json with
  | .null | .bool true | .bool false =>
    exact (mostOpenFrom_word rfl now rest).trans (Nat.max_eq_right low).symm
  | .number (.integer n) =>
    exact (mostOpenFrom_plain (chars_plain n) now rest).trans (Nat.max_eq_right low).symm
  | .number (.decimal ..) => exact exact.elim
  | .string s => exact (mostOpenFrom_stringText now s rest).trans (Nat.max_eq_right low).symm
  | .array [] =>
    rw [render, mostOpenFrom_open (.inl rfl), mostOpenFrom_close (.inl rfl)]
    rfl
  | .array (first :: others) =>
    rw [render, mostOpenFrom_open (.inl rfl), mostOpenFrom_render first exact.1,
      mostOpenFrom_renderItems others exact.2, mostOpenFrom_close (.inl rfl), height, itemsHeight]
    omega
  | .object [] =>
    rw [render, mostOpenFrom_open (.inr rfl), mostOpenFrom_close (.inr rfl)]
    rfl
  | .object ((key, value) :: others) =>
    rw [render, mostOpenFrom_open (.inr rfl), mostOpenFrom_stringText, mostOpenFrom_same _ rfl]
    change mostOpenFrom .outside (now + 1) _ = _
    rw [mostOpenFrom_render value exact.1, mostOpenFrom_renderMembers others exact.2,
      mostOpenFrom_close (.inr rfl), height, membersHeight]
    omega
termination_by structural json

theorem mostOpenFrom_renderItems (items : List Json) (exact : ExactItems items) (now : Nat)
    (rest : List Char) :
    mostOpenFrom .outside now (renderItems items rest) =
      max (now + itemsHeight items) (mostOpenFrom .outside now rest) := by
  have low := le_mostOpenFrom .outside now rest
  match items with
  | [] => exact (Nat.max_eq_right low).symm
  | first :: others =>
    rw [renderItems, mostOpenFrom_same _ rfl]
    change mostOpenFrom .outside now _ = _
    rw [mostOpenFrom_render first exact.1, mostOpenFrom_renderItems others exact.2, itemsHeight]
    omega
termination_by structural items

theorem mostOpenFrom_renderMembers (members : List (String × Json)) (exact : ExactMembers members)
    (now : Nat) (rest : List Char) :
    mostOpenFrom .outside now (renderMembers members rest) =
      max (now + membersHeight members) (mostOpenFrom .outside now rest) := by
  have low := le_mostOpenFrom .outside now rest
  match members with
  | [] => exact (Nat.max_eq_right low).symm
  | (key, value) :: others =>
    rw [renderMembers, mostOpenFrom_same _ rfl]
    change mostOpenFrom .outside now _ = _
    rw [mostOpenFrom_stringText, mostOpenFrom_same _ rfl]
    change mostOpenFrom .outside now _ = _
    rw [mostOpenFrom_render value exact.1, mostOpenFrom_renderMembers others exact.2, membersHeight]
    omega
termination_by structural members

end

theorem mostOpen_compact {json : Json} (exact : json.Exact) : mostOpen json.compact = json.height := by
  rw [mostOpen, compact, String.toList_ofList, mostOpenFrom_render json exact]
  simp [mostOpenFrom]

namespace Syntax.Shape

theorem list_covers {item : Shape} {items : List Json} (each : ∀ json ∈ items, item.Covers json) :
    (list item).Covers (.array items) := by
  change (list item).CoversItems items
  induction items with
  | nil => trivial
  | cons first rest ih =>
    exact ⟨each first List.mem_cons_self, ih fun json member => each json (List.mem_cons_of_mem _ member)⟩

end Syntax.Shape

theorem exactItems_map {α : Type} {encode : α → Json} (each : ∀ x, (encode x).Exact) (xs : List α) :
    ExactItems (xs.map encode) := by
  induction xs with
  | nil => trivial
  | cons x xs ih => exact ⟨each x, ih⟩

theorem exact_ofNat (n : UInt64) : (ofNat n.toNat).Exact := by
  have small := n.toNat_lt
  have negative : Int64.minValue.toInt ≤ 0 := by decide
  exact ⟨Int.le_trans negative (Int.natCast_nonneg _), Int.ofNat_lt.mpr small⟩

theorem exact_ofInt (n : Int64) : (ofInt n.toInt).Exact := by
  have upper : n.toInt ≤ Int64.maxValue.toInt := Int64.toInt_le n
  have smaller : Int64.maxValue.toInt < UInt64.size := by decide
  exact ⟨Int64.minValue_le_toInt n, Int.lt_of_le_of_lt upper smaller⟩

end Json

namespace Value

theorem toJson_exact (v : Value) : v.toJson.Exact := by
  cases v with
  | i32 n =>
    have lower : Int64.minValue.toInt ≤ Int32.minValue.toInt := by decide
    have upper : Int32.maxValue.toInt < UInt64.size := by decide
    refine ⟨trivial, ⟨?_, ?_⟩, trivial⟩
    · exact Int.le_trans lower (Int32.minValue_le_toInt n)
    · exact Int.lt_of_le_of_lt (Int32.toInt_le n) upper
  | i64 n => exact ⟨trivial, Json.exact_ofInt n, trivial⟩

theorem shape_covers (v : Value) : shape.Covers v.toJson :=
  ⟨⟨.whole, rfl, trivial⟩, ⟨.whole, rfl, trivial⟩, trivial⟩

end Value

namespace Instruction

mutual

theorem toJson_exact (instruction : Instruction) : instruction.toJson.Exact := by
  match instruction with
  | .nop | .trap | .unknown | .const none | .getLocal none | .binary _ => exact ⟨trivial, trivial⟩
  | .const (some n) => exact ⟨trivial, Json.exact_ofInt n, trivial⟩
  | .getLocal (some i) => exact ⟨trivial, Json.exact_ofNat i, trivial⟩
  | .loop body => exact ⟨trivial, listToJson_exact body, trivial⟩
  | .setLocal none none => exact ⟨trivial, trivial⟩
  | .setLocal (some i) none => exact ⟨trivial, Json.exact_ofNat i, trivial⟩
  | .setLocal none (some init) => exact ⟨trivial, toJson_exact init, trivial⟩
  | .setLocal (some i) (some init) => exact ⟨trivial, Json.exact_ofNat i, toJson_exact init, trivial⟩
termination_by structural instruction

theorem listToJson_exact (code : List Instruction) : Json.ExactItems (listToJson code) := by
  match code with
  | [] => trivial
  | first :: rest => exact ⟨toJson_exact first, listToJson_exact rest⟩
termination_by structural code

end

end Instruction

namespace FunctionBody

theorem toJson_exact (body : FunctionBody) : body.toJson.Exact := by
  have types : ∀ type : ValueType, type.toJson.Exact := fun _ => trivial
  refine ⟨?_, ?_, ?_, trivial⟩
  · exact Json.exactItems_map Value.toJson_exact body.params
  · exact Json.exactItems_map types body.locals
  · exact Instruction.listToJson_exact body.code

theorem shape_covers (body : FunctionBody) : shape.Covers body.toJson := by
  refine ⟨⟨_, rfl, Json.Syntax.Shape.list_covers ?_⟩, ⟨_, rfl, Json.Syntax.Shape.whole_covers _⟩,
    ⟨_, rfl, Json.Syntax.Shape.whole_covers _⟩, trivial⟩
  intro json member
  obtain ⟨v, _, rfl⟩ := List.mem_map.mp member
  exact v.shape_covers

/-- A stored body is read back as it was, unless more than 127 arrays and objects are open at once in its
text. Then it is refused as no body. -/
theorem parse_jsonText (body : FunctionBody) :
    parse body.jsonText =
      if Json.mostOpen body.jsonText ≤ 127 then .ok body
      else .error "Failed to parse function body" := by
  have read := Json.ofText?_compact body.toJson_exact body.shape_covers
  have limit : Json.Syntax.maxOpen = 127 := rfl
  rw [limit] at read
  rw [jsonText, Json.mostOpen_compact body.toJson_exact, parse, ofJsonText?, read]
  by_cases fits : body.toJson.height ≤ 127
  · simp only [if_pos fits, Option.bind_eq_bind, Option.bind_some, ofJson?_toJson]
  · simp only [if_neg fits, Option.bind_eq_bind, Option.bind_none]
    rfl

/-- A loop opens two containers, for itself and for its body, and an initializer one. -/
example : Json.mostOpen (jsonText ⟨[], [], [.loop [.setLocal none (some .nop)]]⟩) = 6 := by
  decide +kernel

end FunctionBody

end FrameMachine
