import FrameMachine.Json.Token

/-! The syntax tree of JSON text, and how much of it is read.

The grammar alone decides what a syntax tree is. Reading one as a value asks more of it: numbers
must be finite, strings must stand for text, and at most 127 containers may be open at once. A part
that is skipped is not read, so nothing of this is asked of it. Which parts are read is told by a
shape.

The parser keeps the containers that are still open in a list, so nesting is bounded by the length
of the text and by nothing else. -/

namespace FrameMachine.Json

inductive Syntax where
  | null
  | bool (b : Bool)
  | number (n : Number)
  | string (s : Option String)
  | array (items : List Syntax)
  | object (members : List (Option String × Syntax))
deriving Inhabited

namespace Syntax

/-! ### From tokens to the tree -/

/-- A container that is still open, with its parts so far in reverse order. -/
inductive Container where
  | array (items : List Syntax)
  | object (members : List (Option String × Syntax))
  /-- An object whose next member has its key already. -/
  | member (members : List (Option String × Syntax)) (key : Option String)

/-- What may come next inside the innermost container. -/
inductive Place where
  | value
  /-- Behind the bracket that opened an array. -/
  | firstItem
  | afterItem
  /-- Behind the brace that opened an object. -/
  | firstMember
  | afterMember
  | key
  | colon (key : Option String)
  /-- Behind the outermost value. -/
  | finished (tree : Syntax)

/-- How far a parser came. -/
structure Cursor where
  enclosing : List Container
  place : Place

namespace Cursor

def start : Cursor := ⟨[], .value⟩

/-- A value is complete: it goes into the innermost container, or it is the whole text. -/
def complete (tree : Syntax) : List Container → Option Cursor
  | [] => some ⟨[], .finished tree⟩
  | .array items :: outer => some ⟨.array (tree :: items) :: outer, .afterItem⟩
  | .member members key :: outer => some ⟨.object ((key, tree) :: members) :: outer, .afterMember⟩
  | .object _ :: _ => none

/-- The token that starts a value. -/
def begin (enclosing : List Container) : Token → Option Cursor
  | .null => complete .null enclosing
  | .bool b => complete (.bool b) enclosing
  | .number n => complete (.number n) enclosing
  | .string s => complete (.string s) enclosing
  | .openArray => some ⟨.array [] :: enclosing, .firstItem⟩
  | .openObject => some ⟨.object [] :: enclosing, .firstMember⟩
  | _ => none

def closeArray : List Container → Option Cursor
  | .array items :: outer => complete (.array items.reverse) outer
  | _ => none

def closeObject : List Container → Option Cursor
  | .object members :: outer => complete (.object members.reverse) outer
  | _ => none

/-- The key of the next member is followed by its value. -/
def bindKey (key : Option String) : List Container → Option Cursor
  | .object members :: outer => some ⟨.member members key :: outer, .value⟩
  | _ => none

/-- Takes one token. -/
def advance (cursor : Cursor) (token : Token) : Option Cursor :=
  match cursor.place, token with
  | .value, token => begin cursor.enclosing token
  | .firstItem, .closeArray => closeArray cursor.enclosing
  | .firstItem, token => begin cursor.enclosing token
  | .afterItem, .comma => some { cursor with place := .value }
  | .afterItem, .closeArray => closeArray cursor.enclosing
  | .firstMember, .closeObject => closeObject cursor.enclosing
  | .firstMember, .string key => some { cursor with place := .colon key }
  | .afterMember, .comma => some { cursor with place := .key }
  | .afterMember, .closeObject => closeObject cursor.enclosing
  | .key, .string key => some { cursor with place := .colon key }
  | .colon key, .colon => bindKey key cursor.enclosing
  | _, _ => none

def result? (cursor : Cursor) : Option Syntax :=
  match cursor.place with
  | .finished tree => some tree
  | _ => none

/-- Takes all tokens. The tree is there once the outermost value is complete. -/
def follow (cursor : Cursor) : List Token → Option Syntax
  | [] => cursor.result?
  | token :: rest =>
    match cursor.advance token with
    | some cursor => cursor.follow rest
    | none => none

end Cursor

def ofText? (text : String) : Option Syntax := do
  let tokens ← Token.ofText? text
  Cursor.start.follow tokens

/-! ### From the tree to a value -/

/-- How many containers may be open at once. -/
def maxOpen : Nat := 127

/-- Which parts of a document are read. -/
inductive Shape where
  /-- All of it. -/
  | whole
  /-- A list, each item in the same shape. -/
  | list (item : Shape)
  /-- Known fields, each in a shape of its own. Other members are skipped. An array of the fields in
  this order is read in the same way. -/
  | record (fields : List (String × Shape))

namespace Shape

/-- The shape of the first item of an array, and the shape of what follows it. -/
def items : Shape → Shape × Shape
  | .whole => (.whole, .whole)
  | .list item => (item, .list item)
  | .record [] => (.whole, .whole)
  | .record ((_, field) :: fields) => (field, .record fields)

/-- The shape of a member, if it is read at all. -/
def member? (key : String) : Shape → Option Shape
  | .record fields => fields.lookup key
  | _ => some .whole

end Shape

mutual

/-- Reads a tree in a shape, with `room` for that many more open containers. -/
def read? (shape : Shape) (room : Nat) : Syntax → Option Json
  | .null => some .null
  | .bool b => some (.bool b)
  | .number n => if n.isFinite then some (.number n) else none
  | .string s => s.map .string
  | .array items =>
    match room with
    | 0 => none
    | room + 1 => (readItems? shape room items).map .array
  | .object members =>
    match room with
    | 0 => none
    | room + 1 => (readMembers? shape room members).map .object

def readItems? (shape : Shape) (room : Nat) : List Syntax → Option (List Json)
  | [] => some []
  | first :: rest => do
    let item ← read? shape.items.1 room first
    let others ← readItems? shape.items.2 room rest
    return item :: others

/-- The key of a skipped member must stand for text all the same. -/
def readMembers? (shape : Shape) (room : Nat) :
    List (Option String × Syntax) → Option (List (String × Json))
  | [] => some []
  | (none, _) :: _ => none
  | (some key, tree) :: rest =>
    match shape.member? key with
    | none => readMembers? shape room rest
    | some inner => do
      let value ← read? inner room tree
      let others ← readMembers? shape room rest
      return (key, value) :: others

end

end Syntax

/-- Reads JSON text in a shape. -/
def ofText? (shape : Syntax.Shape) (text : String) : Option Json := do
  let tree ← Syntax.ofText? text
  tree.read? shape Syntax.maxOpen

end FrameMachine.Json
