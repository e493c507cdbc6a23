import FrameMachine.Alphanumeric
import FrameMachine.Characters
import FrameMachine.Environment

/-! Files that define environment variables, one assignment to a line. A value may be quoted, and a
quote that is open at the end of a line goes on in the next. A malformed line ends the reading;
what stands before it counts. -/

namespace FrameMachine.Dotenv

/-! ### Lines -/

/-- What a line is in the middle of. -/
inductive Midst where
  | nothing
  /-- Right behind a blank, where a comment may start. -/
  | gap
  | escape
  | weak
  | weakEscape
  | strong
  | strongEscape
deriving DecidableEq, Inhabited

def Midst.next (midst : Midst) (c : Char) : Midst :=
  match midst, c with
  | .escape, _ => .nothing
  | .weak, '\\' => .weakEscape
  | .weak, '"' => .nothing
  | .weak, _ => .weak
  | .weakEscape, _ => .weak
  | .strong, '\\' => .strongEscape
  | .strong, '\'' => .nothing
  | .strong, _ => .strong
  | .strongEscape, _ => .strong
  | _, '\\' => .escape
  | _, '"' => .weak
  | _, '\'' => .strong
  | .gap, _ => .nothing
  | .nothing, c => if isBlank c && c != '\n' && c != '\r' then .gap else .nothing

/-- Scans a line up to its end or to a comment. With a comment, what stands before it is given. -/
def scan (midst : Midst) (before : List Char) : List Char → Midst × Option (List Char)
  | [] => (midst, none)
  | c :: rest =>
    if midst = .gap ∧ c = '#' then (.nothing, some before.reverse)
    else scan (midst.next c) (c :: before) rest

/-- Cuts behind every line feed. -/
def rawLines (before : List Char) : List Char → List (List Char)
  | [] => if before.isEmpty then [] else [before.reverse]
  | '\n' :: rest => ('\n' :: before).reverse :: rawLines [] rest
  | c :: rest => rawLines (c :: before) rest

/-- Joins lines as long as the last one is in the middle of something, and drops comments. What is
not complete at the end of the file is dropped too. -/
def joinLines (midst : Midst) (before : List Char) : List (List Char) → List (List Char)
  | [] => []
  | raw :: rest =>
    if (trimStart (before ++ raw)).head? = some '#' then [] :: joinLines .nothing [] rest
    else
      match scan midst [] raw with
      | (_, some kept) => (before ++ kept) :: joinLines .nothing [] rest
      | (.nothing, none) => (before ++ raw) :: joinLines .nothing [] rest
      | (midst, none) => joinLines midst (before ++ raw) rest

/-! ### Values -/

inductive Mode where
  | plain
  | escape
  | strong
  /-- In the name behind a dollar sign, kept in reverse order. -/
  | name (run : List Char)
  | bracedName (run : List Char)
  /-- Behind the value, where only blanks and a comment may follow. -/
  | behind
  | comment
deriving DecidableEq, Inhabited

/-- A value while it is read, in reverse order, and whether double quotes are open. -/
structure Draft where
  mode : Mode
  quoted : Bool
  output : List Char

namespace Draft

def push (state : Draft) (c : Char) : Draft :=
  { state with mode := .plain, output := c :: state.output }

/-- Puts the value of a variable in place of its name. A variable that is not set has none. -/
def substitute (environment : Environment) (state : Draft) (run : List Char) : Draft :=
  let value := (environment.expand? (String.ofList run.reverse)).getD ""
  { state with mode := .plain, output := value.toList.reverse ++ state.output }

/-- A name behind a dollar sign is made of letters and digits, unless it stands in braces. -/
def step (environment : Environment) (state : Draft) (c : Char) : Option Draft :=
  match state.mode with
  | .comment => some state
  | .behind =>
    if c = ' ' ∨ c = '\t' then some state
    else if c = '#' then some { state with mode := .comment }
    else none
  | .escape =>
    if c = '\\' ∨ c = '\'' ∨ c = '"' ∨ c = '$' ∨ c = ' ' then some (state.push c)
    else if c = 'n' then some (state.push '\n')
    else none
  | .strong => some (if c = '\'' then { state with mode := .plain }
      else { state with output := c :: state.output })
  | .name run =>
    if isAlphanumeric c then some { state with mode := .name (c :: run) }
    else if c = '\x7b' ∧ run = [] then some { state with mode := .bracedName [] }
    else
      let state := state.substitute environment run
      some (if c = '$' then { state with mode := .name [] } else state.push c)
  | .bracedName run =>
    some (if c = '\x7d' then state.substitute environment run
      else { state with mode := .bracedName (c :: run) })
  | .plain =>
    if c = '$' then some { state with mode := .name [] }
    else if c = '\\' then some { state with mode := .escape }
    else if c = '"' then some { state with quoted := !state.quoted }
    else if state.quoted then some (state.push c)
    else if c = '\'' then some { state with mode := .strong }
    else if c = ' ' ∨ c = '\t' then some { state with mode := .behind }
    else some (state.push c)

/-- The value at the end of a line, where no quote and no brace may be open. -/
def finish (environment : Environment) (state : Draft) : Option String :=
  if state.quoted then none
  else
    match state.mode with
    | .strong => none
    | .bracedName _ => none
    | .name run => some (String.ofList (state.substitute environment run).output.reverse)
    | _ => some (String.ofList state.output.reverse)

end Draft

def value? (environment : Environment) (cs : List Char) : Option String := do
  let state ← cs.foldlM (Draft.step environment) ⟨.plain, false, []⟩
  state.finish environment

/-! ### Assignments -/

/-- A name at the front, with the rest behind the blanks that follow it. -/
def name? : List Char → Option (String × List Char)
  | c :: rest =>
    if c.isAlpha || c == '_' then
      let inName c := c.isAlphanum || c == '_' || c == '.'
      some (String.ofList (c :: rest.takeWhile inName), trimStart (rest.dropWhile inName))
    else none
  | [] => none

/-- What stands before the equals sign, with the rest behind it. The word `export` may come before
the name. -/
def target? (cs : List Char) : Option (String × List Char) :=
  match name? cs with
  | none => none
  | some (name, '=' :: rest) => some (name, rest)
  | some (name, rest) =>
    if name = "export" then
      match name? rest with
      | some (name, '=' :: rest) => some (name, rest)
      | _ => none
    else none

def isNothing (cs : List Char) : Bool := cs.isEmpty || cs.head? == some '#'

/-- The environment after a line, if the line is well formed. -/
def line? (environment : Environment) (cs : List Char) : Option Environment :=
  let cs := trimStart (trimEnd cs)
  if isNothing cs then some environment
  else
    match target? cs with
    | none => none
    | some (name, rest) =>
      let rest := trimStart rest
      if isNothing rest then some (environment.define name "")
      else (value? environment rest).map (environment.define name)

def lines (environment : Environment) : List (List Char) → Environment
  | [] => environment
  | line :: rest =>
    match line? environment line with
    | none => environment
    | some environment => lines environment rest

/-- The environment after a file. A mark of the byte order in front means nothing. -/
def load (environment : Environment) (text : String) : Environment :=
  lines environment (joinLines .nothing [] (rawLines [] (skipMark text.toList)))

end FrameMachine.Dotenv
