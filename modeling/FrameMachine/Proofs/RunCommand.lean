import FrameMachine.CommandLine.Perform
import FrameMachine.Proofs.Lines
import FrameMachine.Proofs.Observation
import FrameMachine.Proofs.StoredBody
import FrameMachine.Proofs.Unconfigured
import Mathlib.Data.List.Forall2

/-! The command that runs a function body, from its arguments to what it prints. The arguments are read
as given, nothing around the program changes its settings, the stored body is read back, the machine
runs it, and every line of what is printed tells of the outcome or of one event. Each stage has its
lemma, and `run_command` puts them together. -/

namespace FrameMachine

namespace Outcome

theorem toJson_exact (outcome : Outcome) : outcome.toJson.Exact := by
  cases outcome with
  | value v => exact ⟨trivial, v.toJson_exact, trivial⟩
  | empty | trapped => exact ⟨trivial, trivial⟩

theorem shapeOf_covers (outcome : Outcome) :
    (shapeOf (.ofJson outcome.toJson)).Covers outcome.toJson := by
  cases outcome with
  | value v => exact ⟨⟨.whole, rfl, trivial⟩, ⟨Value.shape, rfl, v.shape_covers⟩, trivial⟩
  | empty | trapped => exact ⟨⟨.whole, rfl, trivial⟩, trivial⟩

theorem toJson_height (outcome : Outcome) : outcome.toJson.height ≤ Json.Syntax.maxOpen := by
  cases outcome with
  | value v =>
    have nested : (toJson (.value v)).height = 2 := rfl
    rw [nested]
    decide
  | empty | trapped => decide

theorem ofJsonText?_compact (outcome : Outcome) : ofJsonText? outcome.toJson.compact = some outcome := by
  have read := Json.Syntax.read?_ofJson _ outcome.toJson_exact outcome.shapeOf_covers Json.Syntax.maxOpen
  rw [if_pos outcome.toJson_height] at read
  rw [ofJsonText?, Json.Syntax.ofText?_compact outcome.toJson_exact]
  simp only [Option.bind_eq_bind, Option.bind_some, read, ofJson?_toJson]

end Outcome

namespace Decimal

theorem toList_text (n : Nat) : (text n).toList = digits n := by
  rw [text, String.toList_ofList]
  rfl

theorem unsigned?_digits (n : Nat) : unsigned? (digits n) = some n := by
  have natural : natural? (digits n) = some n := by
    rw [natural?, if_neg, if_pos (digits_all_isDigit n), value_digits]
    rw [List.isEmpty_iff]
    exact digits_ne_nil n
  unfold unsigned?
  split
  next run plus =>
    have digit : '+'.isDigit = true := digits_isDigit (n := n) (by simp [plus])
    cases digit
  next => exact natural

end Decimal

namespace CommandLine

def runArguments (file : String) (maxDepth : UInt64) (trace json : Bool) : List String :=
  ["run", file, "--max-depth", Decimal.text maxDepth.toNat] ++ (if trace then ["--trace"] else [])
    ++ if json then ["--json"] else []

theorem ofText_bare {text : String} (undashed : text.toList.head? ≠ some '-') :
    Word.ofText text = .bare text := by
  unfold Word.ofText
  split <;> simp_all

theorem ofText_digits (n : Nat) : Word.ofText (Decimal.text n) = .bare (Decimal.text n) := by
  apply ofText_bare
  rw [Decimal.toList_text]
  intro dashed
  cases Decimal.digits_isDigit (List.mem_of_mem_head? dashed)

theorem depth?_text (maxDepth : UInt64) :
    Given.depth? (Decimal.text maxDepth.toNat) = some maxDepth := by
  rw [Given.depth?, Decimal.toList_text, Decimal.unsigned?_digits]
  simp only [if_pos maxDepth.toNat_lt, UInt64.ofNat_toNat]

theorem words_file {file : String} (nonempty : file ≠ "") (undashed : file.toList.head? ≠ some '-')
    (maxDepth : UInt64) (rest : List String) :
    Given.words .run .nothing false (file :: "--max-depth" :: Decimal.text maxDepth.toNat :: rest) =
      Given.words .run
        ⟨none, none, false, false, some file, some (.maxDepth, some (Decimal.text maxDepth.toNat))⟩ false
        rest := by
  have option : Word.ofText "--max-depth" = .long "max-depth" none := by decide
  have placed : Given.nothing.positional .run file =
      .ok { Given.nothing with pending := some (.file, some file) } := rfl
  have opened : Given.long { Given.nothing with pending := some (.file, some file) } .run "max-depth" none =
      .ok ⟨none, none, false, false, some file, some (.maxDepth, none)⟩ := by
    simp [Given.long, Level.option?, Given.settle, Given.store, nonempty, Given.nothing, bind, Except.bind,
      pure, Except.pure]
  have waits : Given.isWaiting ⟨none, none, false, false, some file, some (.maxDepth, none)⟩ = true := rfl
  simp only [Given.words, ofText_bare undashed, option, ofText_digits, placed, opened, waits, bind,
    Except.bind, if_true, Bool.false_eq_true, if_false]
  rfl

theorem words_switches (file : String) (maxDepth : UInt64) (trace json : Bool) :
    Given.words .run
        ⟨none, none, false, false, some file, some (.maxDepth, some (Decimal.text maxDepth.toNat))⟩ false
        ((if trace then ["--trace"] else []) ++ if json then ["--json"] else []) =
      .ok ⟨none, some maxDepth, trace, json, some file, none⟩ := by
  have traced : Word.ofText "--trace" = .long "trace" none := by decide
  have encoded : Word.ofText "--json" = .long "json" none := by decide
  cases trace <;> cases json <;>
    simp [Given.words, traced, encoded, Given.long, Level.option?, Given.settle, Given.store, depth?_text,
      Given.turnOn, bind, Except.bind]

theorem parse_runArguments {file : String} (nonempty : file ≠ "")
    (undashed : file.toList.head? ≠ some '-') (maxDepth : UInt64) (trace json : Bool) :
    parse (runArguments file maxDepth trace json) =
      .ok ⟨none, .run file trace (some maxDepth) json⟩ := by
  have given := words_file nonempty undashed maxDepth
    ((if trace then ["--trace"] else []) ++ if json then ["--json"] else [])
  rw [words_switches] at given
  have level : parse (runArguments file maxDepth trace json) =
      inCommand .nothing .run (file :: "--max-depth" :: Decimal.text maxDepth.toNat ::
        ((if trace then ["--trace"] else []) ++ if json then ["--json"] else [])) := by
    rw [runArguments, List.append_assoc]
    rfl
  rw [level, inCommand, given]
  rfl

def unlines (lines : List String) : String := String.join (lines.map (· ++ "\n"))

/-- A line that tells of an event: the depth, the position and the text of the instruction. -/
def Tells (line : String) (event : Event) : Prop :=
  ∃ padding, line = "  [depth " ++ Decimal.text event.depth.toNat ++ "] " ++
    String.ofList (List.replicate padding ' ') ++ Decimal.text event.pc ++ ": " ++ event.instruction.text

theorem Tells.oneLine {line : String} {event : Event} (tells : Tells line event) :
    '\n' ∉ line.toList := by
  obtain ⟨padding, rfl⟩ := tells
  have blanks : '\n' ∉ List.replicate padding ' ' := by simp [List.mem_replicate]
  simp [Decimal.text, Decimal.chars_oneLine, event.instruction.text_oneLine, blanks]

theorem eventLine_tells (event : Event) : ∃ line, eventLine event = line ++ "\n" ∧ Tells line event := by
  have aligned : String.ofList (Decimal.alignRight 3 (Decimal.digits event.pc)) =
      String.ofList (List.replicate (3 - (Decimal.digits event.pc).length) ' ') ++ Decimal.text event.pc := by
    rw [Decimal.alignRight, String.ofList_append]
    rfl
  refine ⟨_, ?_, 3 - (Decimal.digits event.pc).length, rfl⟩
  rw [eventLine, numbered, aligned]
  simp only [String.append_assoc]

theorem unlines_cons (line : String) (lines : List String) :
    unlines (line :: lines) = line ++ "\n" ++ unlines lines := by
  rw [unlines, List.map_cons, String.join_cons]
  rfl

theorem eventLines_tell (events : List Event) :
    ∃ lines, String.join (events.map eventLine) = unlines lines ∧
      (∀ line ∈ lines, '\n' ∉ line.toList) ∧ List.Forall₂ Tells lines events := by
  induction events with
  | nil => exact ⟨[], rfl, nofun, .nil⟩
  | cons event events ih =>
    obtain ⟨line, ended, tells⟩ := eventLine_tells event
    obtain ⟨lines, joined, each, others⟩ := ih
    refine ⟨line :: lines, ?_, List.forall_mem_cons.mpr ⟨tells.oneLine, each⟩, .cons tells others⟩
    rw [List.map_cons, String.join_cons, ended, joined, unlines_cons]

/-- What a run prints are lines: one for the outcome, and one for each recorded event. -/
theorem runText_lines (report : RunReport) (json : Bool) :
    ∃ first lines, runText report json = unlines (first :: lines) ∧
      (∀ line ∈ first :: lines, '\n' ∉ line.toList) ∧
      (if json then Outcome.ofJsonText? first = some report.outcome else first = report.outcome.text) ∧
      List.Forall₂ Tells lines report.trace := by
  obtain ⟨lines, joined, each, tell⟩ := eventLines_tell report.trace
  cases json with
  | true =>
    refine ⟨report.outcome.toJson.compact, lines, ?_, ?_, report.outcome.ofJsonText?_compact, tell⟩
    · rw [runText, if_pos rfl, joined, unlines_cons]
    · exact List.forall_mem_cons.mpr ⟨report.outcome.toJson.compact_oneLine, each⟩
  | false =>
    refine ⟨report.outcome.text, lines, ?_, ?_, rfl, tell⟩
    · rw [runText, if_neg Bool.false_ne_true, joined, unlines_cons]
    · exact List.forall_mem_cons.mpr ⟨report.outcome.text_oneLine, each⟩

theorem perform_stored (body : FunctionBody) (fits : Json.mostOpen body.jsonText ≤ 127)
    {surroundings : Surroundings} {file : String}
    (stored : surroundings.directory.HoldsOnly file body.jsonText)
    (ordinary : file ∉ Configuration.ownFiles)
    (unaided : surroundings.directory.LacksUpward ".env")
    (foreign : ∀ entry ∈ surroundings.environment, Configuration.IsForeign entry) {maxDepth : UInt64}
    (positive : maxDepth ≠ 0) (trace json : Bool) :
    perform surroundings ⟨none, .run file trace (some maxDepth) json⟩ =
      runBody file body ⟨maxDepth, false⟩ trace json := by
  have configured := Configuration.resolve_unconfigured stored ordinary unaided foreign positive
  have read : readBody surroundings.directory file = .ok body := by
    rw [readBody, stored.held]
    simp only [body.parse_jsonText, if_pos fits]
  simp only [perform, performRun, loadConfiguration, configured, read]

/-- Running a stored body. In a working directory with no other file, under a name that is none of the
configuration's own, with no file of variables in a directory above and no variables of the program set,
the command succeeds exactly if the machine meets no fault. It then prints a line with the outcome, as
text or as JSON that decodes to it, and if asked for a trace one line for each event, in order. Otherwise
it prints nothing. -/
theorem run_command (body : FunctionBody) (fits : Json.mostOpen body.jsonText ≤ 127)
    {surroundings : Surroundings} {file : String} (isName : Directory.IsName file)
    (ordinary : file ∉ Configuration.ownFiles) (undashed : file.toList.head? ≠ some '-')
    (stored : surroundings.directory.HoldsOnly file body.jsonText)
    (unaided : surroundings.directory.LacksUpward ".env")
    (foreign : ∀ entry ∈ surroundings.environment, Configuration.IsForeign entry) {maxDepth : UInt64}
    (positive : maxDepth ≠ 0) (trace json : Bool) :
    ∃ invocation, parse (runArguments file maxDepth trace json) = .ok invocation ∧
      let report := perform surroundings invocation
      let machine : Machine (Array Event) := ⟨maxDepth, .recorder⟩
      let (answer, after) := machine.run body.code body.store #[]
      ((∃ text, report.result = .ok text) ↔ ∃ outcome, answer = .ok outcome) ∧
      (∀ outcome, answer = .ok outcome → ∃ first lines,
        report.printed = unlines (first :: lines) ∧
        (∀ line ∈ first :: lines, '\n' ∉ line.toList) ∧
        (if json then Outcome.ofJsonText? first = some outcome else first = outcome.text) ∧
        (if trace then List.Forall₂ Tells lines after.seen.toList else lines = [])) ∧
      ∀ fault, answer = .error fault → report.printed = "" := by
  refine ⟨_, parse_runArguments isName.nonempty undashed maxDepth trace json, ?_⟩
  rw [perform_stored body fits stored ordinary unaided foreign positive trace json]
  have recorded := body.run_recorded maxDepth false trace
  cases executed : (⟨maxDepth, .recorder⟩ : Machine (Array Event)).run body.code body.store #[] with
  | mk answer after =>
    simp only [executed] at recorded ⊢
    rcases ran : body.run ⟨maxDepth, false⟩ trace with ⟨result, log⟩
    rw [ran] at recorded
    simp only [runBody, ran]
    cases answer with
    | error fault =>
      obtain rfl : result = .error fault := recorded
      simp [Report.printed]
    | ok outcome =>
      obtain rfl : result = .ok ⟨outcome, if trace then after.seen.toList else []⟩ := recorded
      obtain ⟨first, lines, joined, each, told, tell⟩ :=
        runText_lines ⟨outcome, if trace then after.seen.toList else []⟩ json
      refine ⟨⟨fun _ => ⟨outcome, rfl⟩, fun _ => ⟨_, rfl⟩⟩, ?_, nofun⟩
      rintro _ ⟨⟩
      refine ⟨first, lines, joined, each, told, ?_⟩
      cases trace with
      | true => exact tell
      | false => exact List.forall₂_nil_right_iff.mp tell

/-- Documents in other directories, the one above included, mean nothing. -/
theorem run_command_traced_loop :
    let body : FunctionBody := ⟨[.i32 7], [], [.nop, .loop [.getLocal (some 0)], .getLocal (some 0)]⟩
    let files := [("../kernel.toml", "?"), ("body.json", body.jsonText), ("old/kernel.toml", "?")]
    let surroundings : Surroundings := ⟨⟨"/home/work", files⟩, [("HOME", "/home")]⟩
    Json.mostOpen body.jsonText = 5 ∧
    surroundings.directory.HoldsOnly "body.json" body.jsonText ∧
    surroundings.directory.LacksUpward ".env" ∧ Configuration.IsForeign ("HOME", "/home") ∧
    ∃ invocation first lines,
      parse (runArguments "body.json" 1 true true) = .ok invocation ∧
      (perform surroundings invocation).printed = unlines (first :: lines) ∧
      Outcome.ofJsonText? first = some (.value (.i32 7)) ∧ lines.length = 4 := by
  intro body files surroundings
  have open5 : Json.mostOpen body.jsonText = 5 := Json.mostOpen_compact body.toJson_exact
  have isName : Directory.IsName "body.json" := by decide
  have stored : surroundings.directory.HoldsOnly "body.json" body.jsonText :=
    .of_files isName (by decide +kernel) (by decide +kernel)
  have unaided : surroundings.directory.LacksUpward ".env" := by decide +kernel
  have foreign : Configuration.IsForeign ("HOME", "/home") := by
    unfold Configuration.IsForeign
    decide +kernel
  have positive : (1 : UInt64) ≠ 0 := by decide
  obtain ⟨invocation, parsed, _, printed, _⟩ := run_command body (by omega) isName (by decide) (by decide)
    stored unaided (List.forall_mem_singleton.mpr foreign) positive true true
  obtain ⟨first, lines, joined, _, told, tell⟩ := printed _ rfl
  exact ⟨open5, stored, unaided, foreign, invocation, first, lines, parsed, joined, told, tell.length_eq⟩

/-- Each condition is needed. A file of variables in the directory above is read, and a variable of the
program counts in lower case too. A body under the name `kernel` is taken for the document of the
configuration, which is meant to be `kernel.toml`. -/
theorem run_command_misconfigured :
    let body : FunctionBody := ⟨[], [], []⟩
    let above := [("body.json", body.jsonText), ("../.env", "KERNEL_ENGINE__MAX_DEPTH=x\n")]
    let fails (surroundings : Surroundings) (file : String) : Prop :=
      surroundings.directory.HoldsOnly file body.jsonText ∧
      ∃ invocation, parse (runArguments file 5 false false) = .ok invocation ∧
        (perform surroundings invocation).result.toOption = none
    Json.mostOpen body.jsonText = 2 ∧
    ((⟨5, .recorder⟩ : Machine (Array Event)).run body.code body.store #[]).1 = .ok .empty ∧
    fails ⟨⟨"/work", above⟩, []⟩ "body.json" ∧
    ¬ "KERNEL".toList <+: "kernel_engine__max_depth".toList ∧
    fails ⟨⟨"/work", [("body.json", body.jsonText)]⟩, [("kernel_engine__max_depth", "x")]⟩ "body.json" ∧
    fails ⟨⟨"/work", [("kernel", body.jsonText)]⟩, []⟩ "kernel" := by
  intro body above fails
  have isName : Directory.IsName "body.json" := by decide
  have invoked {file : String} (nonempty : file ≠ "") (undashed : file.toList.head? ≠ some '-') :=
    parse_runArguments nonempty undashed 5 false false
  refine ⟨by decide +kernel, rfl, ⟨?_, _, invoked (by decide) (by decide), by decide +kernel⟩, by decide,
    ⟨?_, _, invoked (by decide) (by decide), by decide +kernel⟩,
    ⟨?_, _, invoked (by decide) (by decide), by decide +kernel⟩⟩
  · exact .of_files isName (by decide +kernel) (by decide +kernel)
  · exact .of_files isName (by decide +kernel) (by decide +kernel)
  · exact .of_files (by decide) (by decide +kernel) (by decide +kernel)

end CommandLine

end FrameMachine
