import FrameMachine.Toml.Scalar

/-! Tables of a TOML document while it is read. A table remembers how it came about, since that says
what may still be added to it. -/

namespace FrameMachine.Toml

inductive Origin where
  /-- Opened by a header of its own. -/
  | opened
  /-- Stands above a table with a header. -/
  | implied
  /-- Made by a key with points in it. -/
  | dotted
deriving DecidableEq, Inhabited

inductive Node where
  | value (v : Datum)
  | table (origin : Origin) (entries : List (String × Node))
  /-- Tables under one header, last first. -/
  | tables (items : List (List (String × Node)))
deriving Inhabited

abbrev Entries := List (String × Node)

namespace Entries

def replace (key : String) (node : Node) : Entries → Entries
  | [] => []
  | (name, old) :: rest =>
    if name = key then (name, node) :: rest else (name, old) :: replace key node rest

def remove (key : String) (entries : Entries) : Entries :=
  entries.filter fun entry => entry.1 ≠ key

/-- Adds a value under a path of keys within one table. The tables on the way come from keys with
points, and so does the last one if there is any. -/
def insert (key : String) (v : Datum) (within : Bool) :
    List String → Origin → Entries → Option Entries
  | [], origin, entries =>
    if within ∧ origin ≠ .dotted then none
    else
      match entries.lookup key with
      | some _ => none
      | none => some (entries ++ [(key, .value v)])
  | name :: path, _, entries =>
    match entries.lookup name with
    | none => (insert key v true path .dotted []).map fun inner =>
      entries ++ [(name, .table .dotted inner)]
    | some (.value _) => none
    | some (.table .opened _) => none
    | some (.table origin inner) => (insert key v true path origin inner).map fun inner =>
      entries.replace name (.table origin inner)
    | some (.tables []) => none
    | some (.tables (last :: others)) => (insert key v true path .opened last).map fun last =>
      entries.replace name (.tables (last :: others))

/-- Adds a value under a path that ends in its key. -/
def insertPath (path : List String) (v : Datum) (entries : Entries) : Option Entries :=
  match path.getLast? with
  | none => none
  | some key => insert key v false path.dropLast .opened entries

/-- Changes the table at a path of headers. Of tables under one header, it is the last. -/
def modify (change : Entries → Option Entries) : List String → Entries → Option Entries
  | [], entries => change entries
  | name :: path, entries =>
    match entries.lookup name with
    | none => (modify change path []).map fun inner => entries ++ [(name, .table .implied inner)]
    | some (.value _) => none
    | some (.table origin inner) => (modify change path inner).map fun inner =>
      entries.replace name (.table origin inner)
    | some (.tables []) => none
    | some (.tables (last :: others)) => (modify change path last).map fun last =>
      entries.replace name (.tables (last :: others))

/-- Opens a table. It may be there already only if it was implied, and then it moves to the end. -/
def openTable (key : String) (entries : Entries) : Option Entries :=
  match entries.lookup key with
  | none => some (entries ++ [(key, .table .opened [])])
  | some (.table .implied inner) => some (entries.remove key ++ [(key, .table .opened inner)])
  | some _ => none

/-- Opens one more of the tables under a header. -/
def openItem (key : String) (entries : Entries) : Option Entries :=
  match entries.lookup key with
  | none => some (entries ++ [(key, .tables [[]])])
  | some (.tables items) => some (entries.replace key (.tables ([] :: items)))
  | some _ => none

end Entries

namespace Node

mutual

def datum : Node → Datum
  | .value v => v
  | .table _ entries => .table (data entries)
  | .tables items => .list (itemData items).reverse

def data : List (String × Node) → List (String × Datum)
  | [] => []
  | (key, node) :: rest => (key, datum node) :: data rest

def itemData : List (List (String × Node)) → List Datum
  | [] => []
  | entries :: rest => .table (data entries) :: itemData rest

end

end Node

end FrameMachine.Toml
