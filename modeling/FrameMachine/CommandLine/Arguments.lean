import FrameMachine.Decimal

/-! The arguments of the command line. Options of a command stand in any order before and behind its
file, and the option for the configuration may also stand before the command.

An option that takes the next word as its value, and a file, are set only when something else that
is known follows, or at the end of the command. What is unknown is therefore refused before the value
of the last option is looked at. -/

namespace FrameMachine.CommandLine

/-- What a command is called with. -/
inductive Command where
  | run (file : String) (trace : Bool) (maxDepth : Option UInt64) (json : Bool)
  | list (file : String)
  | config
deriving DecidableEq, Inhabited

structure Invocation where
  config : Option String
  command : Command
deriving DecidableEq, Inhabited

/-- Why words are no invocation. A request for help is among these, since it runs no command. -/
inductive UsageError where
  | help
  | helpOnNothing
  | missingCommand
  | unknownCommand
  | missingFile
  | unknownArgument
  | badValue
  | notADepth
  | repeated
  | unwantedValue
deriving DecidableEq, Inhabited

def UsageError.kind : UsageError → String
  | .help => "DisplayHelp"
  | .helpOnNothing => "DisplayHelpOnMissingArgumentOrSubcommand"
  | .missingCommand => "MissingSubcommand"
  | .unknownCommand => "InvalidSubcommand"
  | .missingFile => "MissingRequiredArgument"
  | .unknownArgument => "UnknownArgument"
  | .badValue => "InvalidValue"
  | .notADepth => "ValueValidation"
  | .repeated => "ArgumentConflict"
  | .unwantedValue => "TooManyValues"

/-! ### Words -/

/-- A level of the command line: before the command, or one of the commands. -/
inductive Level where
  | top
  | run
  | list
  | config
deriving DecidableEq, Inhabited

/-- What takes a value. -/
inductive Slot where
  | config
  | maxDepth
  | file
deriving DecidableEq, Inhabited

inductive Switch where
  | trace
  | json
deriving DecidableEq, Inhabited

inductive Known where
  | help
  | slot (slot : Slot)
  | switch (switch : Switch)
deriving DecidableEq, Inhabited

/-- The option of a name, if the level has it. -/
def Level.option? (level : Level) (name : String) : Option Known :=
  match name with
  | "help" => some .help
  | "config" => some (.slot .config)
  | "max-depth" => if level = .run then some (.slot .maxDepth) else none
  | "trace" => if level = .run then some (.switch .trace) else none
  | "json" => if level = .run then some (.switch .json) else none
  | _ => none

def Level.takesFile (level : Level) : Bool := level == .run || level == .list

def Level.ofName? : String → Option Level
  | "run" => some .run
  | "show" => some .list
  | "config" => some .config
  | _ => none

/-- The word that asks for help on a command. -/
def helpWord : String := "help"

def isCommand (word : String) : Bool := word == helpWord || (Level.ofName? word).isSome

/-- A word by its form. -/
inductive Word where
  /-- Two dashes alone: all that follows are files. -/
  | dashes
  /-- A name behind two dashes, with what stands behind an equals sign. -/
  | long (name : String) (value : Option String)
  /-- Letters behind a single dash. -/
  | short (first : Char)
  | bare (text : String)
deriving DecidableEq, Inhabited

def Word.ofText (text : String) : Word :=
  match text.toList with
  | ['-', '-'] => .dashes
  | '-' :: '-' :: rest =>
    let name := String.ofList (rest.takeWhile (· != '='))
    match rest.dropWhile (· != '=') with
    | _ :: value => .long name (some (String.ofList value))
    | [] => .long name none
  | '-' :: c :: _ => .short c
  | _ => .bare text

/-! ### Levels -/

/-- What a level has been given. A slot with a value that is still `pending` is not set yet; it may
also still lack the value. -/
structure Given where
  config : Option String
  maxDepth : Option UInt64
  trace : Bool
  json : Bool
  file : Option String
  pending : Option (Slot × Option String)
deriving Inhabited

namespace Given

def nothing : Given := ⟨none, none, false, false, none, none⟩

def depth? (text : String) : Option UInt64 :=
  match Decimal.unsigned? text.toList with
  | some n => if n < UInt64.size then some (UInt64.ofNat n) else none
  | none => none

/-- Sets a slot, once. -/
def store (given : Given) (slot : Slot) (value : String) : Except UsageError Given :=
  match slot with
  | .config =>
    if given.config.isSome then .error .repeated else .ok { given with config := some value }
  | .maxDepth =>
    if given.maxDepth.isSome then .error .repeated
    else
      match depth? value with
      | some depth => .ok { given with maxDepth := some depth }
      | none => .error .notADepth
  | .file => if value = "" then .error .badValue else .ok { given with file := some value }

/-- Sets what is pending. -/
def settle (given : Given) : Except UsageError Given :=
  match given.pending with
  | none => .ok given
  | some (_, none) => .error .badValue
  | some (slot, some value) => { given with pending := none }.store slot value

def turnOn (given : Given) : Switch → Except UsageError Given
  | .trace => if given.trace then .error .repeated else .ok { given with trace := true }
  | .json => if given.json then .error .repeated else .ok { given with json := true }

/-- Whether an option waits for the next word. -/
def isWaiting (given : Given) : Bool :=
  match given.pending with
  | some (_, none) => true
  | _ => false

def hasFile (given : Given) : Bool :=
  given.file.isSome ||
    match given.pending with
    | some (.file, _) => true
    | _ => false

/-- Takes the next word as the value that an option waits for. -/
def fill (given : Given) (value : String) : Given :=
  { given with pending := given.pending.map fun (slot, _) => (slot, some value) }

/-- Takes an option with two dashes. -/
def long (given : Given) (level : Level) (name : String) (value : Option String) :
    Except UsageError Given :=
  match level.option? name, value with
  | none, _ => .error .unknownArgument
  | some (.slot slot), none => do
    let given ← given.settle
    return { given with pending := some (slot, none) }
  | some (.slot slot), some value => do (← given.settle).store slot value
  | some _, some _ => .error .unwantedValue
  | some .help, none => do
    let _ ← given.settle
    .error .help
  | some (.switch switch), none => do (← given.settle).turnOn switch

/-- Takes an option with one dash, of which there is only the one for help. -/
def short (given : Given) (first : Char) : Except UsageError Given :=
  if first = 'h' then do
    let _ ← given.settle
    .error .help
  else .error .unknownArgument

/-- Takes a word that is no option and no value of one. -/
def positional (given : Given) (level : Level) (text : String) : Except UsageError Given :=
  if level.takesFile && !given.hasFile then do
    let given ← given.settle
    return { given with pending := some (.file, some text) }
  else .error .unknownArgument

/-- Takes the words of a command up to their end. -/
def words (level : Level) (given : Given) (onlyFiles : Bool) :
    List String → Except UsageError Given
  | [] => given.settle
  | text :: rest =>
    if onlyFiles then do words level (← given.positional level text) true rest
    else
      match Word.ofText text with
      | .dashes => words level given true rest
      | .long name value => do words level (← given.long level name value) false rest
      | .short first => do words level (← given.short first) false rest
      | .bare text =>
        if given.isWaiting then words level (given.fill text) false rest
        else do words level (← given.positional level text) false rest

/-- The command of a level with what it has been given. -/
def command (given : Given) : Level → Except UsageError Command
  | .top => .error .missingCommand
  | .config => .ok .config
  | .list =>
    match given.file with
    | some file => .ok (.list file)
    | none => .error .missingFile
  | .run =>
    match given.file with
    | some file => .ok (.run file given.trace given.maxDepth given.json)
    | none => .error .missingFile

end Given

/-! ### The whole line -/

/-- What a request for help comes to: the words behind it name at most one command. -/
def helpOn : List String → UsageError
  | [] => .help
  | [word] => if isCommand word then .help else .unknownCommand
  | _ => .unknownCommand

/-- Takes the words of a command, and only then settles what stood before it. The option behind the
command wins. -/
def inCommand (outer : Given) (level : Level) (rest : List String) :
    Except UsageError Invocation := do
  let given ← Given.words level .nothing false rest
  let command ← given.command level
  let outer ← outer.settle
  return ⟨given.config <|> outer.config, command⟩

/-- The end of a line without a command. -/
def withoutCommand (outer : Given) : UsageError :=
  match outer.settle with
  | .error e => e
  | .ok given => if given.config.isSome then .missingCommand else .helpOnNothing

/-- Takes the words up to the command. -/
def beforeCommand (outer : Given) (onlyFiles : Bool) : List String → Except UsageError Invocation
  | [] => .error (withoutCommand outer)
  | text :: rest =>
    if onlyFiles then .error (if isCommand text then .unknownArgument else .unknownCommand)
    else
      match Word.ofText text with
      | .dashes => beforeCommand outer true rest
      | .long name value => do beforeCommand (← outer.long .top name value) false rest
      | .short first => do beforeCommand (← outer.short first) false rest
      | .bare text =>
        if outer.isWaiting then beforeCommand (outer.fill text) false rest
        else if text = helpWord then .error (helpOn rest)
        else
          match Level.ofName? text with
          | some level => inCommand outer level rest
          | none => .error .unknownCommand

/-- Reads the arguments behind the program's name. -/
def parse (arguments : List String) : Except UsageError Invocation :=
  beforeCommand .nothing false arguments

end FrameMachine.CommandLine
