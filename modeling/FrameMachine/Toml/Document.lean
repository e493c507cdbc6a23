import FrameMachine.Characters
import FrameMachine.Toml.Table
import FrameMachine.Toml.Text

/-! Reading of TOML documents. A document is a sequence of headers and of keys with values, each on a
line of its own. Only arrays and blocks of text go over several lines. -/

namespace FrameMachine.Toml

/-- Skips blanks, line ends and comments. There is no rest if a comment holds a control character. -/
def skipLines (comment : Bool) : List Char → Option (List Char)
  | [] => some []
  | '\n' :: rest => skipLines false rest
  | '\r' :: '\n' :: rest => skipLines false rest
  | c :: rest =>
    if comment then if isPlain c then skipLines true rest else none
    else if c = '#' then skipLines true rest
    else if isGap c then skipLines false rest
    else some (c :: rest)

/-! ### Values -/

abbrev Reader (α : Type) := List Char → Option (α × List Char)

/-- Reads a key, an equals sign and a value. -/
def pair? (value : Reader Datum) : Reader (List String × Datum) := fun cs =>
  match keys? maxNesting cs with
  | some (path, '=' :: rest) => (value (skipGap rest)).map fun (v, rest) => ((path, v), rest)
  | _ => none

/-- Reads the items of an array. Each takes at least one character, so the length of the text bounds
their number. -/
def items? (value : Reader Datum) : (bound : Nat) → (done : List Datum) → Reader (List Datum)
  | 0, _, _ => none
  | bound + 1, done, cs =>
    match skipLines false cs with
    | none => none
    | some (']' :: rest) => some (done.reverse, rest)
    | some cs => do
      let (v, rest) ← value cs
      match ← skipLines false rest with
      | ',' :: rest => items? value bound (v :: done) rest
      | ']' :: rest => some ((v :: done).reverse, rest)
      | _ => none

/-- Reads the entries of a table on one line, which has at least one. -/
def pairs? (value : Reader Datum) : (bound : Nat) → (done : Entries) → Reader Entries
  | 0, _, _ => none
  | bound + 1, done, cs => do
    let ((path, v), rest) ← pair? value cs
    let done ← done.insertPath path v
    match skipGap rest with
    | ',' :: rest => pairs? value bound done rest
    | '\x7d' :: rest => some (done, rest)
    | _ => none

def inlineTable? (value : Reader Datum) : Reader Datum := fun cs =>
  match skipGap cs with
  | '\x7d' :: rest => some (.table [], rest)
  | cs => (pairs? value cs.length [] cs).map fun (entries, rest) =>
    (.table (Node.data entries), rest)

/-- Reads a value that does not nest. -/
def plain? (cs : List Char) : Option (Datum × List Char) :=
  match text? cs with
  | some (s, rest) => some (.text s, rest)
  | none => scalar? cs

/-- Reads a value with at most `room` arrays and tables around each other. -/
def value? : (room : Nat) → Reader Datum
  | 0, cs => plain? cs
  | room + 1, '[' :: rest =>
    (items? (value? room) rest.length [] rest).map fun (items, rest) => (.list items, rest)
  | room + 1, '\x7b' :: rest => inlineTable? (value? room) rest
  | _ + 1, cs => plain? cs

/-! ### Lines -/

/-- The rest behind the end of a line, where a comment may stand. -/
def lineEnd? (cs : List Char) : Option (List Char) :=
  match skipGap cs with
  | [] => some []
  | '#' :: rest => skipLines true rest
  | cs => newline? cs

/-- A document that has been read so far, with the path of the table that is open. -/
structure Document where
  root : Entries
  path : List String

namespace Document

def empty : Document := ⟨[], []⟩

/-- Opens the table of a header. -/
def header (opener : String → Entries → Option Entries) (doc : Document) (path : List String) :
    Option Document :=
  match path.getLast? with
  | none => none
  | some key => (doc.root.modify (opener key) path.dropLast).map fun root => ⟨root, path⟩

def insert (doc : Document) (path : List String) (v : Datum) : Option Document :=
  (doc.root.modify (·.insertPath path v) doc.path).map fun root => { doc with root }

/-- Reads one line that is not blank. -/
def line? (doc : Document) : Reader Document
  | '[' :: '[' :: rest =>
    match keys? maxNesting rest with
    | some (path, ']' :: ']' :: rest) => (doc.header Entries.openItem path).map fun doc => (doc, rest)
    | _ => none
  | '[' :: rest =>
    match keys? maxNesting rest with
    | some (path, ']' :: rest) => (doc.header Entries.openTable path).map fun doc => (doc, rest)
    | _ => none
  | cs =>
    match pair? (value? maxNesting) cs with
    | some ((path, v), rest) => (doc.insert path v).map fun doc => (doc, rest)
    | none => none

/-- Reads all lines. Each takes at least one character, so the length of the text bounds their
number. -/
def lines? : (bound : Nat) → Document → List Char → Option Document
  | 0, _, _ => none
  | bound + 1, doc, cs =>
    match skipLines false cs with
    | none => none
    | some [] => some doc
    | some cs =>
      match doc.line? cs with
      | none => none
      | some (doc, rest) =>
        match lineEnd? rest with
        | none => none
        | some rest => lines? bound doc rest

end Document

/-- The entries of a document's outermost table. -/
def read? (text : String) : Option (List (String × Datum)) :=
  let cs := skipMark text.toList
  (Document.lines? (cs.length + 1) .empty cs).map fun doc => Node.data doc.root

end FrameMachine.Toml
