import FrameMachine.Proofs.Decoding

/-! Decoding ignores the order of members and members that mean nothing. What an object means is decided by
the members that its form knows, wherever they stand and whatever stands between them, and so at every
level of a document. The one exception is an outcome: content in front of its tag is set aside until
the tag is known, and then a few forms of values are understood that are not understood behind it. -/

namespace FrameMachine

namespace Json

theorem field?_perm (key : String) {members others : List (String × Json)}
    (permuted : members.Perm others) : field? key members = field? key others := by
  have kept := permuted.filter fun member => member.1 = key
  rw [field?, field?]
  generalize members.filter (fun member => member.1 = key) = found at kept ⊢
  generalize others.filter (fun member => member.1 = key) = foundToo at kept ⊢
  cases found with
  | nil => rw [kept.nil_eq]
  | cons first rest =>
    cases rest with
    | nil => rw [List.perm_singleton.mp kept.symm]
    | cons second rest =>
      have long := kept.length_eq
      cases foundToo with
      | nil => cases long
      | cons firstToo restToo =>
        cases restToo with
        | nil => cases long
        | cons secondToo restToo => rfl

theorem field?_other {key name : String} (other : name ≠ key) (json : Json)
    (members : List (String × Json)) : field? key ((name, json) :: members) = field? key members := by
  simp [field?, other]

/-- A member in front is the one with its key, or else its key is repeated. -/
theorem field?_same (key : String) (json : Json) (members : List (String × Json)) :
    field? key ((key, json) :: members) =
      if members.any (fun member => member.1 = key) then none else some (some json) := by
  rw [field?, List.filter_cons_of_pos (by simp)]
  cases found : members.filter fun member => member.1 = key with
  | nil =>
    have absent : members.any (fun member => member.1 = key) = false := by
      rw [List.any_eq_false]
      exact List.filter_eq_nil_iff.mp found
    rw [absent]
    rfl
  | cons first rest =>
    have present : members.any (fun member => member.1 = key) = true := by
      have member : first ∈ members.filter fun member => member.1 = key := by
        rw [found]
        exact List.mem_cons_self
      rw [List.any_eq_true]
      exact ⟨first, (List.mem_filter.mp member).1, (List.mem_filter.mp member).2⟩
    rw [present]
    rfl

theorem optional?_congr {α : Type} {read readToo : Json → Option α} {json other : Json}
    (absent : json = .null ↔ other = .null) (same : read json = readToo other) :
    json.optional? read = other.optional? readToo := by
  have present {read : Json → Option α} {json : Json} (given : json ≠ .null) :
      json.optional? read = (read json).map some := by
    cases json with
    | null => exact absurd rfl given
    | bool | number | string | array | object => rfl
  by_cases null : json = .null
  · rw [null, absent.mp null]
    rfl
  · rw [present null, present fun nullToo => null (absent.mpr nullToo), same]

theorem list?_item {α : Type} (read : Json → Option α) {json other : Json}
    (same : read json = read other) (front back : List Json) :
    (array (front ++ json :: back)).list? read = (array (front ++ other :: back)).list? read := by
  simp only [list?, List.mapM_append, List.mapM_cons, same]

end Json

theorem Operation.field_cases {operation : Operation} {key : String} (own : key ∈ operation.fields) :
    key = "value" ∨ key = "body" ∨ key = "index" ∨ key = "init" := by
  cases operation with
  | const | loop | getLocal | setLocal => simp_all [fields]
  | nop | trap | binary | unknown => cases own

namespace Instruction

/-- Reads the field with a key among members, unless it was given before. A field that is given twice is
an error. -/
def readField {α : Type} (read : Json → Option α) (key : String) :
    Option α → List (String × Json) → Option (Option α)
  | given, [] => some given
  | given, (name, json) :: rest =>
    if name = key then
      match given with
      | some _ => none
      | none => (read json).bind fun found => readField read key (some found) rest
    else readField read key given rest

theorem readField_perm {α : Type} (read : Json → Option α) (key : String)
    {members others : List (String × Json)} (permuted : members.Perm others) (given : Option α) :
    readField read key given members = readField read key given others := by
  induction permuted generalizing given with
  | nil => rfl
  | cons member _ ih =>
    simp only [readField, ih]
  | swap member other rest =>
    by_cases first : member.1 = key <;> by_cases second : other.1 = key <;>
      cases given <;> simp [readField, first, second]
  | trans _ _ first second => rw [first, second]

def gather (value : Option (Option (Option Int64))) (body : Option (Option (List Instruction)))
    (index : Option (Option (Option UInt64))) (init : Option (Option (Option Instruction))) :
    Option Operands := do
  return ⟨← value, ← body, ← index, ← init⟩

def readFields (operands : Operands) (members : List (String × Json)) : Option Operands :=
  gather (readField (·.optional? Json.int64?) "value" operands.value members)
    (readField decodeBody "body" operands.body members)
    (readField (·.optional? Json.uint64?) "index" operands.index members)
    (readField (·.optional? (decode true)) "init" operands.init members)

theorem decodeMembers_eq_readFields (operation : Operation) (operands : Operands)
    (members : List (String × Json)) :
    decodeMembers operation operands members =
      readFields operands (members.filter fun member => member.1 ∈ operation.fields) := by
  induction members generalizing operands with
  | nil => rw [decodeMembers]; rfl
  | cons member rest ih =>
    obtain ⟨key, json⟩ := member
    rw [decodeMembers]
    by_cases own : key ∈ operation.fields
    · rw [if_pos own, List.filter_cons_of_pos (by simpa using own)]
      simp only [ih]
      obtain ⟨value, body, index, init⟩ := operands
      rcases Operation.field_cases own with rfl | rfl | rfl | rfl
      · cases value with
        | some value => simp [Operands.give?, readFields, readField, gather]
        | none =>
          cases read : json.optional? Json.int64? <;>
            simp [Operands.give?, readFields, readField, gather, read]
      · cases body with
        | some body => simp [Operands.give?, readFields, readField, gather]
        | none =>
          cases read : decodeBody json <;>
            simp [Operands.give?, readFields, readField, gather, read]
      · cases index with
        | some index => simp [Operands.give?, readFields, readField, gather]
        | none =>
          cases read : json.optional? Json.uint64? <;>
            simp [Operands.give?, readFields, readField, gather, read]
      · cases init with
        | some init => simp [Operands.give?, readFields, readField, gather]
        | none =>
          have same : json.optional? (fun _ => decode true json) = json.optional? (decode true) := by
            cases json <;> rfl
          cases read : json.optional? (decode true) <;>
            simp [Operands.give?, readFields, readField, gather, same, read]
    · rw [if_neg own, List.filter_cons_of_neg (by simpa using own)]
      exact ih operands

theorem readFields_perm (operands : Operands) {members others : List (String × Json)}
    (permuted : members.Perm others) : readFields operands members = readFields operands others := by
  simp only [readFields, readField_perm _ _ permuted]

theorem decodeBody_eq_list? (json : Json) : decodeBody json = json.list? (decode true) := by
  cases json with
  | null | bool | number | string | object => rfl
  | array items =>
    rw [decodeBody, Json.list?]
    induction items with
    | nil => rfl
    | cons first rest ih => rw [decodeList, List.mapM_cons, ih]

/-- Two JSON values that any operands take alike as the field with a key. -/
def Interchangeable (key : String) (json other : Json) : Prop :=
  ∀ operands : Operands,
    operands.give? key json (fun _ => decodeBody json) (fun _ => decode true json) =
      operands.give? key other (fun _ => decodeBody other) fun _ => decode true other

theorem interchangeable_body {json other : Json}
    (same : json.list? (decode true) = other.list? (decode true)) :
    Interchangeable "body" json other := by
  intro operands
  simp only [Operands.give?, decodeBody_eq_list?, same]

theorem interchangeable_init {json other : Json} (absent : json = .null ↔ other = .null)
    (same : decode true json = decode true other) : Interchangeable "init" json other := by
  intro operands
  have read : json.optional? (fun _ => decode true json) =
      other.optional? fun _ => decode true other := Json.optional?_congr absent same
  simp only [Operands.give?, read]

theorem decodeMembers_interchangeable (operation : Operation) {key : String} {json other : Json}
    (interchangeable : Interchangeable key json other) (operands : Operands)
    (rest : List (String × Json)) :
    decodeMembers operation operands ((key, json) :: rest) =
      decodeMembers operation operands ((key, other) :: rest) := by
  rw [decodeMembers, decodeMembers, interchangeable operands]

theorem decodeItems_interchangeable {keys : List String} {front : List Json} {json other : Json}
    (interchangeable : ∀ key, keys[front.length]? = some key → Interchangeable key json other)
    (operands : Operands) (back : List Json) :
    decodeItems keys operands (front ++ json :: back) =
      decodeItems keys operands (front ++ other :: back) := by
  induction front generalizing keys operands with
  | nil =>
    cases keys with
    | nil => rfl
    | cons key keys =>
      rw [List.nil_append, List.nil_append, decodeItems, decodeItems, interchangeable key rfl operands]
  | cons first front ih =>
    cases keys with
    | nil => rfl
    | cons key keys =>
      have later : ∀ key, keys[front.length]? = some key → Interchangeable key json other := by
        intro key found
        exact interchangeable key (by simpa using found)
      rw [List.cons_append, List.cons_append, decodeItems, decodeItems]
      congr 1
      funext operands
      exact ih later operands

/-- What an object decodes to, by its name and its own members. -/
theorem decode_object (inside : Bool) (members : List (String × Json)) :
    decode inside (.object members) =
      (((Json.field? "id" members).join.bind (Operation.ofJson? inside)).bind fun operation =>
        (readFields .none (members.filter fun member => member.1 ∈ operation.fields)).map fun operands =>
          operands.instruction operation) := by
  rw [decode]
  cases Json.field? "id" members with
  | none => rfl
  | some id =>
    simp only [Option.bind_eq_bind, Option.bind_some, Option.join_some, decodeMembers_eq_readFields]
    congr 1
    funext operation
    exact Option.map_eq_bind.symm

end Instruction

namespace Json

def parts? (members : List (String × Json)) : Option (Json × Option Json) := do
  let tag ← field? "t" members
  let content ← field? "v" members
  return (← tag, content)

theorem field?_filter {key : String} {keep : String × Json → Bool}
    (kept : ∀ json, keep (key, json) = true) (members : List (String × Json)) :
    field? key (members.filter keep) = field? key members := by
  have same : (members.filter keep).filter (fun member => member.1 = key) =
      members.filter fun member => member.1 = key := by
    rw [List.filter_filter]
    apply List.filter_congr
    rintro ⟨name, json⟩ _
    by_cases named : name = key
    · subst named
      simp [kept json]
    · simp [named]
  rw [field?, field?, same]

def isPart (member : String × Json) : Bool := member.1 = "t" ∨ member.1 = "v"

theorem Tagged.ofJson?_filter (members : List (String × Json)) :
    Tagged.ofJson? (.object (members.filter isPart)) = Tagged.ofJson? (.object members) := by
  simp only [Tagged.ofJson?, List.filter_filter, isPart, Bool.and_self]

theorem parts?_filter (members : List (String × Json)) :
    parts? (members.filter isPart) = parts? members := by
  rw [parts?, parts?, field?_filter (by simp [isPart]), field?_filter (by simp [isPart])]

theorem Tagged.ofJson?_object (members : List (String × Json)) :
    (Tagged.ofJson? (.object members)).map (fun tagged => (tagged.tag, tagged.content)) =
      parts? members := by
  have either : ∀ member ∈ members.filter isPart, member.1 = "t" ∨ member.1 = "v" := by
    intro member present
    simpa [isPart] using (List.mem_filter.mp present).2
  rw [← Tagged.ofJson?_filter, ← parts?_filter]
  generalize members.filter isPart = own at either ⊢
  cases own with
  | nil => rfl
  | cons first own =>
    obtain ⟨key, json⟩ := first
    have known := either _ List.mem_cons_self
    cases own with
    | nil => rcases known with rfl | rfl <;> rfl
    | cons second own =>
      obtain ⟨keyToo, other⟩ := second
      have knownToo := either _ (List.mem_cons_of_mem _ List.mem_cons_self)
      cases own with
      | nil => rcases known with rfl | rfl <;> rcases knownToo with rfl | rfl <;> rfl
      | cons third own =>
        obtain ⟨keyThree, another⟩ := third
        have knownThree := either (keyThree, another) (by simp)
        rcases known with rfl | rfl <;> rcases knownToo with rfl | rfl <;>
          rcases knownThree with rfl | rfl <;> simp [Tagged.ofJson?, parts?, field?]

theorem Tagged.name?_object {members : List (String × Json)} {tagged : Tagged}
    (read : Tagged.ofJson? (.object members) = some tagged) (setAside : Bool) (names : List String) :
    tagged.name? setAside names = tagged.tag.tagName? setAside := by
  rw [Tagged.ofJson?] at read
  split at read <;> cases read <;> rfl

end Json

namespace Value

def ofParts? (setAside : Bool) (tag : Json) (content : Option Json) : Option Value := do
  let name ← tag.tagName? setAside
  let type ← ValueType.ofText? name
  match content with
  | some (.number (.integer n)) => ofInt? type n
  | _ => none

theorem decode_object (setAside : Bool) (members : List (String × Json)) :
    decode setAside (.object members) =
      (Json.parts? members).bind fun parts => ofParts? setAside parts.1 parts.2 := by
  rw [← Json.Tagged.ofJson?_object, decode]
  cases read : Json.Tagged.ofJson? (.object members) with
  | none => rfl
  | some tagged =>
    simp only [Option.bind_eq_bind, Option.bind_some, Option.map_some,
      Json.Tagged.name?_object read]
    rfl

end Value

namespace Outcome

/-- The outcome with a name and a content, where it is given whether the content was set aside. -/
def ofName? (setAside : Bool) (name : String) (content : Option Json) : Option Outcome :=
  match name, content with
  | "Value", some content => (Value.decode setAside content).map .value
  | "Empty", none => some .empty
  | "Empty", some .null => some .empty
  | "Trapped", none => some .trapped
  | "Trapped", some .null => some .trapped
  | _, _ => none

/-- Reads an outcome as if its content had been set aside or had not, wherever it stands. -/
def readAs (setAside : Bool) (json : Json) : Option Outcome := do
  let tagged ← Json.Tagged.ofJson? json
  let name ← tagged.name? false names
  ofName? setAside name tagged.content

def contentFirst (json : Json) : Bool :=
  (Json.Tagged.ofJson? json).any fun tagged => tagged.layout = .contentFirst

theorem readAs_object (setAside : Bool) (members : List (String × Json)) :
    readAs setAside (.object members) =
      (Json.parts? members).bind fun parts =>
        (parts.1.tagName? false).bind fun name => ofName? setAside name parts.2 := by
  rw [← Json.Tagged.ofJson?_object, readAs]
  cases read : Json.Tagged.ofJson? (.object members) with
  | none => rfl
  | some tagged =>
    simp only [Option.bind_eq_bind, Option.bind_some, Option.map_some,
      Json.Tagged.name?_object read]

theorem ofName?_given {json : Json} (given : json ≠ .null) (setAside : Bool) (name : String) :
    ofName? setAside name (some json) =
      if name = "Value" then (Value.decode setAside json).map .value else none := by
  unfold ofName?
  split <;> simp_all

theorem ofName?_congr {json other : Json} (absent : json = .null ↔ other = .null)
    (same : ∀ setAside, Value.decode setAside json = Value.decode setAside other)
    (setAside : Bool) (name : String) :
    ofName? setAside name (some json) = ofName? setAside name (some other) := by
  by_cases null : json = .null
  · rw [null, absent.mp null]
  · have given : other ≠ .null := fun nullToo => null (absent.mpr nullToo)
    rw [ofName?_given null, ofName?_given given, same]

end Outcome

namespace FunctionBody

theorem ofParts?_params {json other : Json} (same : json.list? Value.ofJson? = other.list? Value.ofJson?)
    (locals code : Option Json) : ofParts? (some json) locals code = ofParts? (some other) locals code := by
  simp only [ofParts?, Option.getD_some, same]

theorem ofParts?_code {json other : Json}
    (same : json.list? Instruction.ofJson? = other.list? Instruction.ofJson?)
    (params locals : Option Json) :
    ofParts? params locals (some json) = ofParts? params locals (some other) := by
  simp only [ofParts?, Option.bind_eq_bind, Option.bind_some, same]

end FunctionBody

namespace Json

/-- What is read from a JSON value. An instruction may stand inside another one. -/
inductive Form where
  | instruction (inside : Bool)
  | instructions (inside : Bool)
  | value
  | values
  | outcome
  | body

namespace Form

def member? (key : String) : Form → Option Form
  | .instruction _ =>
    if key = "body" then some (.instructions true)
    else if key = "init" then some (.instruction true)
    else none
  | .outcome => if key = "v" then some .value else none
  | .body =>
    if key = "params" then some .values
    else if key = "code" then some (.instructions false)
    else none
  | _ => none

def item? (front : List Json) : Form → Option Form
  | .instruction inside => do
    let id ← front.head?
    let operation ← Operation.ofJson? inside id
    let key ← operation.fields[front.length - 1]?
    member? key (.instruction inside)
  | .instructions inside => some (.instruction inside)
  | .value => none
  | .values => some .value
  | .outcome => if front.length = 1 then some .value else none
  | .body => ["params", "locals", "code"][front.length]?.bind (member? · .body)

/-- The keys that mean something in an object. Those of an instruction depend on its name. -/
def keys (members : List (String × Json)) : Form → List String
  | .instruction inside =>
    "id" :: ((field? "id" members).join.bind (Operation.ofJson? inside)).elim [] Operation.fields
  | .value => ["t", "v"]
  | .outcome => ["t", "v"]
  | .body => ["params", "locals", "code"]
  | .instructions _ => []
  | .values => []

end Form

/-- One document is another with the members of objects permuted and with members inserted that mean
nothing there, at the top and inside every instruction or value. -/
inductive Rearranged : Form → Json → Json → Prop where
  | refl (form : Form) (json : Json) : Rearranged form json json
  | trans {form : Form} {json between other : Json} (first : Rearranged form json between)
      (second : Rearranged form between other) : Rearranged form json other
  | permute (form : Form) {members others : List (String × Json)} (permuted : members.Perm others) :
      Rearranged form (.object members) (.object others)
  | insert {form : Form} {members : List (String × Json)} {key : String}
      (foreign : key ∉ form.keys members) (json : Json) :
      Rearranged form (.object members) (.object ((key, json) :: members))
  | member {form inner : Form} {key : String} {json other : Json}
      (nested : form.member? key = some inner) (changed : Rearranged inner json other)
      (rest : List (String × Json)) :
      Rearranged form (.object ((key, json) :: rest)) (.object ((key, other) :: rest))
  | item {form inner : Form} {front : List Json} {json other : Json}
      (nested : form.item? front = some inner) (changed : Rearranged inner json other)
      (back : List Json) :
      Rearranged form (.array (front ++ json :: back)) (.array (front ++ other :: back))

theorem Rearranged.null_iff {form : Form} {json other : Json} (rearranged : Rearranged form json other) :
    json = .null ↔ other = .null := by
  induction rearranged with
  | refl => exact Iff.rfl
  | trans _ _ first second => exact first.trans second
  | permute | insert | member | item => simp

namespace Form

/-- Two documents that are read alike. An outcome is read as if its content had been set aside and as
if it had not. -/
def Alike (json other : Json) : Form → Prop
  | .instruction inside => Instruction.decode inside json = Instruction.decode inside other
  | .instructions inside =>
    json.list? (Instruction.decode inside) = other.list? (Instruction.decode inside)
  | .value => ∀ setAside, Value.decode setAside json = Value.decode setAside other
  | .values => json.list? Value.ofJson? = other.list? Value.ofJson?
  | .outcome => ∀ setAside, Outcome.readAs setAside json = Outcome.readAs setAside other
  | .body => FunctionBody.ofJson? json = FunctionBody.ofJson? other

theorem Alike.refl (form : Form) (json : Json) : form.Alike json json := by
  cases form with
  | instruction | instructions | values | body => exact Eq.refl _
  | value | outcome => exact fun setAside => rfl

theorem Alike.trans {form : Form} {json between other : Json} (first : form.Alike json between)
    (second : form.Alike between other) : form.Alike json other := by
  cases form with
  | instruction | instructions | values | body => exact Eq.trans first second
  | value | outcome => exact fun setAside => (first setAside).trans (second setAside)

theorem alike_permute (form : Form) {members others : List (String × Json)}
    (permuted : members.Perm others) : form.Alike (.object members) (.object others) := by
  have parts : parts? members = parts? others := by
    rw [parts?, parts?, field?_perm "t" permuted, field?_perm "v" permuted]
  cases form with
  | instruction inside =>
    rw [Alike, Instruction.decode_object, Instruction.decode_object, field?_perm "id" permuted]
    congr 1
    funext operation
    rw [Instruction.readFields_perm .none (permuted.filter _)]
  | value =>
    intro setAside
    rw [Value.decode_object, Value.decode_object, parts]
  | outcome =>
    intro setAside
    rw [Outcome.readAs_object, Outcome.readAs_object, parts]
  | body =>
    rw [Alike, FunctionBody.ofJson?, FunctionBody.ofJson?, field?_perm "params" permuted,
      field?_perm "locals" permuted, field?_perm "code" permuted]
  | instructions | values => rfl

theorem alike_insert {form : Form} {members : List (String × Json)} {key : String}
    (foreign : key ∉ form.keys members) (json : Json) :
    form.Alike (.object members) (.object ((key, json) :: members)) := by
  cases form with
  | instruction inside =>
    simp only [keys, List.mem_cons, not_or] at foreign
    rw [Alike, Instruction.decode_object, Instruction.decode_object, field?_other foreign.1]
    cases named : (field? "id" members).join.bind (Operation.ofJson? inside) with
    | none => rfl
    | some operation =>
      rw [named] at foreign
      rw [Option.bind_some, Option.bind_some, List.filter_cons_of_neg (by simpa using foreign.2)]
  | value =>
    simp only [keys, List.mem_cons, List.not_mem_nil, or_false, not_or] at foreign
    intro setAside
    rw [Value.decode_object, Value.decode_object, parts?, parts?, field?_other foreign.1,
      field?_other foreign.2]
  | outcome =>
    simp only [keys, List.mem_cons, List.not_mem_nil, or_false, not_or] at foreign
    intro setAside
    rw [Outcome.readAs_object, Outcome.readAs_object, parts?, parts?, field?_other foreign.1,
      field?_other foreign.2]
  | body =>
    simp only [keys, List.mem_cons, List.not_mem_nil, or_false, not_or] at foreign
    rw [Alike, FunctionBody.ofJson?, FunctionBody.ofJson?, field?_other foreign.1,
      field?_other foreign.2.1, field?_other foreign.2.2]
  | instructions | values => rfl

theorem interchangeable_of_alike {inside : Bool} {inner : Form} {key : String} {json other : Json}
    (nested : member? key (.instruction inside) = some inner) (absent : json = .null ↔ other = .null)
    (alike : inner.Alike json other) : Instruction.Interchangeable key json other := by
  simp only [member?] at nested
  split at nested
  next named =>
    cases nested
    rw [named]
    exact Instruction.interchangeable_body alike
  next =>
    split at nested
    next named =>
      cases nested
      rw [named]
      exact Instruction.interchangeable_init absent alike
    next => cases nested

theorem alike_member {form inner : Form} {key : String} {json other : Json}
    (nested : form.member? key = some inner) (absent : json = .null ↔ other = .null)
    (alike : inner.Alike json other) (rest : List (String × Json)) :
    form.Alike (.object ((key, json) :: rest)) (.object ((key, other) :: rest)) := by
  cases form with
  | instruction inside =>
    have interchangeable := interchangeable_of_alike nested absent alike
    have unnamed : key ≠ "id" := by
      rintro rfl
      cases nested
    rw [Alike, Instruction.decode, Instruction.decode, field?_other unnamed, field?_other unnamed]
    simp only [Instruction.decodeMembers_interchangeable _ interchangeable]
  | outcome =>
    obtain ⟨rfl, rfl⟩ : key = "v" ∧ .value = inner := by simpa [member?] using nested
    intro setAside
    rw [Outcome.readAs_object, Outcome.readAs_object, parts?, parts?, field?_same, field?_same,
      field?_other (by decide), field?_other (by decide)]
    cases rest.any fun member => member.1 = "v" with
    | true => rfl
    | false =>
      cases field? "t" rest with
      | none => rfl
      | some tag =>
        cases tag with
        | none => rfl
        | some tag => simp [Outcome.ofName?_congr absent alike]
  | body =>
    simp only [member?] at nested
    split at nested
    next named =>
      cases nested
      subst named
      rw [Alike, FunctionBody.ofJson?, FunctionBody.ofJson?, field?_same, field?_same,
        field?_other (by decide), field?_other (by decide), field?_other (by decide),
        field?_other (by decide)]
      cases rest.any fun member => member.1 = "params" with
      | true => rfl
      | false => simp [FunctionBody.ofParts?_params alike]
    next =>
      split at nested
      next named =>
        cases nested
        subst named
        rw [Alike, FunctionBody.ofJson?, FunctionBody.ofJson?, field?_same, field?_same,
          field?_other (by decide), field?_other (by decide), field?_other (by decide),
          field?_other (by decide)]
        cases rest.any fun member => member.1 = "code" with
        | true => rfl
        | false => simp [FunctionBody.ofParts?_code alike]
      next => cases nested
  | value | instructions | values => cases nested

theorem alike_item {form inner : Form} {front : List Json} {json other : Json}
    (nested : form.item? front = some inner) (absent : json = .null ↔ other = .null)
    (alike : inner.Alike json other) (back : List Json) :
    form.Alike (.array (front ++ json :: back)) (.array (front ++ other :: back)) := by
  cases form with
  | instruction inside =>
    cases front with
    | nil => cases nested
    | cons id front =>
      simp only [item?, List.head?_cons, Option.bind_eq_bind, Option.bind_some, List.length_cons,
        Nat.add_sub_cancel] at nested
      rw [Alike, List.cons_append, List.cons_append, Instruction.decode, Instruction.decode]
      cases named : Operation.ofJson? inside id with
      | none => rfl
      | some operation =>
        rw [named, Option.bind_some] at nested
        have interchangeable : ∀ key, operation.fields[front.length]? = some key →
            Instruction.Interchangeable key json other := by
          intro key found
          rw [found, Option.bind_some] at nested
          exact interchangeable_of_alike nested absent alike
        simp only [Option.bind_eq_bind, Option.bind_some,
          Instruction.decodeItems_interchangeable interchangeable]
  | instructions inside =>
    cases nested
    exact list?_item _ alike front back
  | values =>
    cases nested
    exact list?_item _ (alike false) front back
  | outcome =>
    obtain ⟨one, rfl⟩ : front.length = 1 ∧ .value = inner := by simpa [item?] using nested
    obtain ⟨tag, rfl⟩ := List.length_eq_one_iff.mp one
    intro setAside
    cases back with
    | nil =>
      change ((tag.pairName? false Outcome.names).bind fun name =>
          Outcome.ofName? setAside name (some json)) =
        (tag.pairName? false Outcome.names).bind fun name => Outcome.ofName? setAside name (some other)
      simp only [Outcome.ofName?_congr absent alike]
    | cons => rfl
  | body =>
    rcases front with _ | ⟨params, _ | ⟨locals, _ | ⟨code, front⟩⟩⟩
    · cases nested
      rcases back with _ | ⟨locals, _ | ⟨code, _ | ⟨more, back⟩⟩⟩
      · rfl
      · rfl
      · exact FunctionBody.ofParts?_params alike _ _
      · rfl
    · cases nested
    · cases nested
      cases back with
      | nil => exact FunctionBody.ofParts?_code alike _ _
      | cons => rfl
    · cases nested
  | value => cases nested

end Form

/-- Rearranging keeps what is read. -/
theorem Rearranged.alike {form : Form} {json other : Json} (rearranged : Rearranged form json other) :
    form.Alike json other := by
  induction rearranged with
  | refl form json => exact .refl form json
  | trans _ _ first second => exact first.trans second
  | permute form permuted => exact form.alike_permute permuted
  | insert foreign json => exact Form.alike_insert foreign json
  | member nested changed rest alike => exact Form.alike_member nested changed.null_iff alike rest
  | item nested changed back alike => exact Form.alike_item nested changed.null_iff alike back

end Json

namespace Json

end Json

namespace Outcome

end Outcome

end FrameMachine
