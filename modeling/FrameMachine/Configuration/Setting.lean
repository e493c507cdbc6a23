import FrameMachine.Binary64
import FrameMachine.Configuration.Basic
import FrameMachine.Characters

/-! Settings as they come from files and variables: a tree of tables and lists with scalars of
several kinds. Keys are in lower case. Layers are laid over each other by assigning to paths, and
the tree is converted to a configuration at the end. -/

namespace FrameMachine

inductive Setting where
  /-- Fills up a list that was assigned to behind its end. -/
  | nothing
  | boolean (b : Bool)
  | integer (n : Int64)
  | real (x : Binary64)
  | text (s : String)
  | list (items : List Setting)
  | table (entries : List (String × Setting))
deriving Inhabited

/-- A step of a path into the tree. A negative position counts from the end of a list. -/
inductive Setting.Step where
  | key (name : String)
  | item (position : Int)
deriving DecidableEq, Inhabited

namespace Setting

/-! ### Tables and lists -/

/-- Changes the entry with a key, or adds one at the end. -/
def updateEntry (key : String) (change : Option Setting → Setting) :
    List (String × Setting) → List (String × Setting)
  | [] => [(key, change none)]
  | (name, value) :: rest =>
    if name = key then (name, change (some value)) :: rest
    else (name, value) :: updateEntry key change rest

/-- What is not a table counts as an empty one. -/
def entries : Setting → List (String × Setting)
  | .table entries => entries
  | _ => []

/-- What is not a list counts as an empty one. -/
def items : Setting → List Setting
  | .list items => items
  | _ => []

/-- Changes the item at a position, which a longer list may have to be made for. -/
def updateItem (position : Int) (change : Setting → Setting) (items : List Setting) :
    List Setting :=
  let place :=
    if 0 ≤ position then position.toNat else items.length - (-position).toNat
  let filled := items ++ List.replicate (place + 1 - items.length) .nothing
  filled.set place (change (filled.getD place .nothing))

mutual

/-- Assigns to a key. A table is merged into the table that is there, key by key. -/
def put (key : String) (root : Setting) : Setting → Setting
  | .table incoming =>
    .table (updateEntry (lowerText key) (fun old => putAll (old.getD (.table [])) incoming)
      root.entries)
  | value => .table (updateEntry (lowerText key) (fun _ => value) root.entries)

def putAll (target : Setting) : List (String × Setting) → Setting
  | [] => target
  | (key, value) :: rest => putAll (put key target value) rest

end

/-- Assigns to a path. What stands in the way is replaced. -/
def assign (value : Setting) : List Step → Setting → Setting
  | [], _ => value
  | [.key name], root => put name root value
  | .key name :: rest, root =>
    .table (updateEntry name (fun old => assign value rest (old.getD .nothing)) root.entries)
  | .item position :: rest, root => .list (updateItem position (assign value rest) root.items)

/-! ### Paths as text -/

def isNameChar (c : Char) : Bool := c.isAlphanum || c == ' ' || c == '_' || c == '-'

/-- Reads a position: digits behind an optional minus sign, with blanks around them, that fit 64 bits
with sign. -/
def position? (run : List Char) : Option Int :=
  let isGap (c : Char) : Bool := c == ' ' || c == '\t'
  let run := ((run.dropWhile isGap).reverse.dropWhile isGap).reverse
  let found : Option Int :=
    match run with
    | '-' :: digits => (Decimal.natural? digits).map fun n => -(n : Int)
    | digits => (Decimal.natural? digits).map fun n => (n : Int)
  found.filter fun n => Int64.minValue.toInt ≤ n ∧ n ≤ Int64.maxValue.toInt

/-- What a path is in the middle of. Characters are kept in reverse order. -/
inductive PathPart where
  | name (run : List Char)
  | position (run : List Char)
  | ended

/-- Reads a path: names behind points, and positions in brackets. -/
def steps? (done : List Step) (part : PathPart) : List Char → Option (List Step)
  | [] =>
    match part with
    | .name [] => none
    | .name run => some (done ++ [.key (String.ofList run.reverse)])
    | .position _ => none
    | .ended => some done
  | c :: rest =>
    match part, c with
    | .name [], c => if isNameChar c then steps? done (.name [c]) rest else none
    | .name run, '.' => steps? (done ++ [.key (String.ofList run.reverse)]) (.name []) rest
    | .name run, '[' => steps? (done ++ [.key (String.ofList run.reverse)]) (.position []) rest
    | .name run, c => if isNameChar c then steps? done (.name (c :: run)) rest else none
    | .position run, ']' =>
      match position? run.reverse with
      | some position => steps? (done ++ [.item position]) .ended rest
      | none => none
    | .position run, c => steps? done (.position (c :: run)) rest
    | .ended, '.' => steps? done (.name []) rest
    | .ended, '[' => steps? done (.position []) rest
    | .ended, _ => none

/-- The path that a key stands for, read in lower case. A key that is no path is a single name. -/
def pathOf (key : String) : List Step :=
  (steps? [] (.name []) (lowerText key).toList).getD [.key (lowerText key)]

/-- Lays one more layer over the tree. -/
def layer (root : Setting) (assignments : List (String × Setting)) : Setting :=
  assignments.foldl (fun root (key, value) => assign value (pathOf key) root) root

/-! ### Conversion -/

/-- A depth: a number that is not negative, where a fraction is rounded, or a text that says one. -/
def depth? : Setting → Option UInt64
  | .boolean b => some (if b then 1 else 0)
  | .integer n => if 0 ≤ n.toInt then some (UInt64.ofNat n.toInt.toNat) else none
  | .real x => some x.toUInt64
  | .text s =>
    match lowerText s with
    | "true" | "on" | "yes" => some 1
    | "false" | "off" | "no" => some 0
    | _ =>
      match Decimal.unsigned? s.toList with
      | some n => if n < UInt64.size then some (UInt64.ofNat n) else none
      | none => none
  | _ => none

/-- A switch: a truth value, a number that is not zero, or a text that says one. -/
def switch? : Setting → Option Bool
  | .boolean b => some b
  | .integer n => some (n.toInt ≠ 0)
  | .real x => some !x.isZero
  | .text s =>
    match lowerText s with
    | "1" | "true" | "on" | "yes" => some true
    | "0" | "false" | "off" | "no" => some false
    | _ => none
  | _ => none

/-- The one field of a section. A section is a table that may name the field, or a list that may
start with it. -/
def field? (name : String) : Setting → Option (Option Setting)
  | .table entries => some (entries.lookup name)
  | .list items => some items.head?
  | _ => none

/-- Reads the field of a section. What is missing has a default, what is there must convert. -/
def fieldOr {α : Type} (standard : α) (read : Setting → Option α) (group name : String)
    (root : Setting) : Option α :=
  match root.entries.lookup group with
  | none => some standard
  | some found => do
    match ← field? name found with
    | none => return standard
    | some value => read value

end Setting

namespace Configuration

/-- Converts settings. Keys that are not known mean nothing. -/
def ofSettings? (root : Setting) : Option Configuration := do
  let maxDepth ← root.fieldOr standard.maxDepth Setting.depth? "engine" "max_depth"
  let traceEnabled ← root.fieldOr standard.traceEnabled Setting.switch? "trace" "enabled"
  return ⟨maxDepth, traceEnabled⟩

end Configuration

end FrameMachine
