import FrameMachine.Configuration.Setting
import FrameMachine.Toml.Document

/-! Settings from TOML documents. -/

namespace FrameMachine

namespace Setting

/-- A table that starts with this key stands for the moment that the key's text says. -/
def momentKey : String := "$__toml_private_datetime"

/-- The text of a moment. -/
def momentOf? : Toml.Datum → Option Setting
  | .text s => if Toml.Moment.isMoment s.toList then some (.text s) else none
  | _ => none

mutual

/-- The setting that a datum gives. There is none if a table that should stand for a moment does
not. -/
def ofDatum? : Toml.Datum → Option Setting
  | .boolean b => some (.boolean b)
  | .integer n => some (.integer n)
  | .real x => some (.real x)
  | .text s => some (.text s)
  | .moment s => some (.text s)
  | .list items => (ofItems? items).map .list
  | .table entries => ofTable? entries

def ofItems? : List Toml.Datum → Option (List Setting)
  | [] => some []
  | item :: rest =>
    match ofDatum? item, ofItems? rest with
    | some item, some rest => some (item :: rest)
    | _, _ => none

def ofTable? : List (String × Toml.Datum) → Option Setting
  | [] => some (.table [])
  | (key, datum) :: rest =>
    if key = momentKey then momentOf? datum
    else
      match ofDatum? datum, ofEntries? rest with
      | some first, some rest => some (.table ((key, first) :: rest))
      | _, _ => none

def ofEntries? : List (String × Toml.Datum) → Option (List (String × Setting))
  | [] => some []
  | (key, datum) :: rest =>
    match ofDatum? datum, ofEntries? rest with
    | some first, some rest => some ((key, first) :: rest)
    | _, _ => none

end

/-- The settings of a document by their keys. -/
def ofDocument? (text : String) : Option (List (String × Setting)) := do
  let entries ← Toml.read? text
  match ← ofTable? entries with
  | .table entries => some entries
  | _ => none

end Setting

end FrameMachine
