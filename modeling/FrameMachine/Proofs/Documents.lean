import FrameMachine.Configuration.Document
import FrameMachine.Proofs.JsonTokens

/-! Documents that say settings. The tables `engine` and `trace` stand one after the other, and each may hold
its field or be empty. A number in decimal digits is read back exactly: digits alone are no moment and
no word, and only zero starts with a zero. -/

namespace FrameMachine

theorem skipMark_cons {c : Char} (other : c ≠ '\uFEFF') (cs : List Char) :
    skipMark (c :: cs) = c :: cs := by
  unfold skipMark
  split
  next same => exact absurd (List.cons.inj same).1 other
  next => rfl

/-- Digits are not a word with another character in it. -/
theorem Decimal.digits_ne {n : Nat} {word : List Char} {c : Char} (member : c ∈ word)
    (letter : c.isDigit = false) : digits n ≠ word := by
  rintro rfl
  rw [digits_isDigit member] at letter
  cases letter

namespace Toml

namespace Moment

theorem skip?_digits {mark : Char} (other : mark.isDigit = false) {cs : List Char}
    (digits : ∀ c ∈ cs, c.isDigit = true) : skip? mark cs = none := by
  cases cs with
  | nil => rfl
  | cons c cs =>
    have different : c ≠ mark := by
      rintro rfl
      rw [digits c List.mem_cons_self] at other
      cases other
    rw [skip?, if_neg different]

theorem digits?_rest {count n : Nat} {cs rest : List Char} (read : digits? count cs = some (n, rest))
    (digits : ∀ c ∈ cs, c.isDigit = true) : ∀ c ∈ rest, c.isDigit = true := by
  rw [digits?] at read
  split at read
  next =>
    cases read
    exact fun c member => digits c (List.mem_of_mem_drop member)
  next => cases read

theorem isMoment_digits {cs : List Char} (digits : ∀ c ∈ cs, c.isDigit = true) :
    isMoment cs = false := by
  have noTime : time? cs = none := by
    rw [time?]
    cases read : digits? 2 cs with
    | none => rfl
    | some found =>
      change (skip? ':' found.2).bind _ = none
      rw [skip?_digits (by decide) (digits?_rest read digits)]
      rfl
  have noDate : date? cs = none := by
    rw [date?]
    cases read : digits? 4 cs with
    | none => rfl
    | some found =>
      change (skip? '-' found.2).bind _ = none
      rw [skip?_digits (by decide) (digits?_rest read digits)]
      rfl
  rw [isMoment, noTime, noDate]
  rfl

end Moment

theorem grouped?_digits {run : List Char} (digits : ∀ c ∈ run, c.isDigit = true) (nonempty : run ≠ []) :
    grouped? Char.isDigit run = some run := by
  induction run with
  | nil => exact absurd rfl nonempty
  | cons c rest ih =>
    have digit := digits c List.mem_cons_self
    cases rest with
    | nil => rw [grouped?, if_pos digit]
    | cons next rest =>
      have nextDigit := digits next (by simp)
      have solid : next ≠ '_' := by
        rintro rfl
        cases nextDigit
      have later := ih (fun c member => digits c (List.mem_cons_of_mem _ member)) (by simp)
      rw [grouped?, if_pos digit, later]
      · rfl
      · simp
      · intro tail same
        exact solid (List.cons.inj same).1

theorem decimal?_digits {n : Nat} (small : (n : Int) ≤ Int64.maxValue.toInt) :
    decimal? false (Decimal.digits n) = some (.integer (Int64.ofInt n)) := by
  have inside : ∀ c ∈ Decimal.digits n, inGroup c = true := by
    intro c member
    rw [inGroup, Decimal.digits_isDigit member]
    rfl
  have fits : Int64.minValue.toInt ≤ (n : Int) := Int.le_trans (by decide) (Int.natCast_nonneg n)
  have nothing : ∀ c, ([] : List Char).head? = some c → inGroup c = false := by simp
  obtain ⟨whole, ended⟩ := takeWhile_run inside nothing
  rw [List.append_nil] at whole ended
  rw [decimal?, whole, ended, grouped?_digits (fun _ => Decimal.digits_isDigit) (Decimal.digits_ne_nil n)]
  dsimp only
  rw [if_neg (Decimal.digits_no_leading_zero n), afterWhole?, Decimal.value_digits, withSign]
  exact if_pos ⟨fits, small⟩

theorem number?_digits {n : Nat} (small : (n : Int) ≤ Int64.maxValue.toInt) :
    number? (Decimal.digits n) = some (.integer (Int64.ofInt n)) := by
  have digits : ∀ c ∈ Decimal.digits n, c.isDigit = true := fun _ => Decimal.digits_isDigit
  have decimal : signed? false (Decimal.digits n) = some (.integer (Int64.ofInt n)) := by
    have infinite : 'i' ∈ "inf".toList := by decide
    have notANumber : 'n' ∈ "nan".toList := by decide
    rw [signed?, if_neg (Decimal.digits_ne infinite rfl), if_neg (Decimal.digits_ne notANumber rfl)]
    exact decimal?_digits small
  rw [← decimal]
  generalize Decimal.digits n = word at digits
  unfold number?
  split
  next => cases digits 'x' (by simp)
  next => cases digits 'o' (by simp)
  next => cases digits 'b' (by simp)
  next => cases digits '-' (by simp)
  next => cases digits '+' (by simp)
  next => rfl

theorem word?_digits {n : Nat} (small : (n : Int) ≤ Int64.maxValue.toInt) :
    word? (Decimal.digits n) = some (.integer (Int64.ofInt n)) := by
  have positive : 't' ∈ "true".toList := by decide
  have negative : 'f' ∈ "false".toList := by decide
  rw [word?, if_neg (Decimal.digits_ne positive rfl), if_neg (Decimal.digits_ne negative rfl),
    Moment.isMoment_digits fun _ => Decimal.digits_isDigit]
  exact number?_digits small

theorem value?_digits {n : Nat} (small : (n : Int) ≤ Int64.maxValue.toInt) (room : Nat) (rest : List Char) :
    value? (room + 1) (Decimal.digits n ++ '\n' :: rest) =
      some (.integer (Int64.ofInt n), '\n' :: rest) := by
  have scalar : scalar? (Decimal.digits n ++ '\n' :: rest) =
      some (.integer (Int64.ofInt n), '\n' :: rest) := by
    have inside : ∀ c ∈ Decimal.digits n, isWordChar c = true := by
      intro c member
      simp [isWordChar, Char.isAlphanum, Decimal.digits_isDigit member]
    have ends : ∀ c, ('\n' :: rest).head? = some c → isWordChar c = false := by
      rintro c ⟨⟩
      decide
    obtain ⟨word, behind⟩ := takeWhile_run inside ends
    simp only [scalar?, word, behind, word?_digits small]
    rfl
  obtain ⟨c, tail, leading, digit⟩ := Decimal.digits_eq_cons n
  rw [← scalar, leading, List.cons_append]
  have bare : text? (c :: (tail ++ '\n' :: rest)) = none := by
    unfold text?
    split
    iterate 4
      next same =>
        cases (List.cons.inj same).1
        cases digit
    next => rfl
  have plain : plain? (c :: (tail ++ '\n' :: rest)) = scalar? (c :: (tail ++ '\n' :: rest)) := by
    rw [plain?, bare]
  rw [← plain]
  unfold value?
  split
  next => rfl
  next same =>
    cases (List.cons.inj same).1
    cases digit
  next same =>
    cases (List.cons.inj same).1
    cases digit
  next => rfl

namespace Document

theorem lines?_line {doc after : Document} {cs line rest next : List Char}
    (found : skipLines false cs = some line) (solid : line ≠ [])
    (read : doc.line? line = some (after, rest)) (ended : lineEnd? rest = some next) (bound : Nat) :
    lines? (bound + 1) doc cs = lines? bound after next := by
  cases line with
  | nil => exact absurd rfl solid
  | cons c line => simp only [lines?, found, read, ended]

/-- A line that opens no table holds a pair of key and value. -/
theorem line?_pair {doc after : Document} {cs rest : List Char} {path : List String} {v : Datum}
    (bare : ∀ tail, cs ≠ '[' :: tail) (pair : pair? (value? maxNesting) cs = some ((path, v), rest))
    (inserted : doc.insert path v = some after) : doc.line? cs = some (after, rest) := by
  unfold line?
  split
  next => exact absurd rfl (bare _)
  next => exact absurd rfl (bare _)
  next => simp only [pair, inserted, Option.map_some]

theorem line?_engine (rest : List Char) :
    empty.line? ("[engine]\n".toList ++ rest) =
      some (⟨[("engine", .table .opened [])], ["engine"]⟩, '\n' :: rest) := by
  rfl

theorem line?_maxDepth {n : Nat} (small : (n : Int) ≤ Int64.maxValue.toInt) (rest : List Char) :
    line? ⟨[("engine", .table .opened [])], ["engine"]⟩
        ("max_depth = ".toList ++ (Decimal.digits n ++ '\n' :: rest)) =
      some (⟨[("engine", .table .opened [("max_depth", .value (.integer (Int64.ofInt n)))])], ["engine"]⟩,
        '\n' :: rest) := by
  have keys : keys? maxNesting ("max_depth = ".toList ++ (Decimal.digits n ++ '\n' :: rest)) =
      some (["max_depth"], '=' :: ' ' :: (Decimal.digits n ++ '\n' :: rest)) := rfl
  have gap : skipGap (' ' :: (Decimal.digits n ++ '\n' :: rest)) = Decimal.digits n ++ '\n' :: rest := by
    obtain ⟨c, tail, leading, digit⟩ := Decimal.digits_eq_cons n
    have solid : ¬ isGap c = true := by
      intro gap
      have blank : c = ' ' ∨ c = '\t' := by simpa [isGap] using gap
      rcases blank with rfl | rfl <;> cases digit
    rw [leading, skipGap, List.dropWhile_cons_of_pos (by decide), List.cons_append,
      List.dropWhile_cons_of_neg solid]
  have pair : pair? (value? maxNesting) ("max_depth = ".toList ++ (Decimal.digits n ++ '\n' :: rest)) =
      some ((["max_depth"], .integer (Int64.ofInt n)), '\n' :: rest) := by
    have value := value?_digits small 78 rest
    simp only [pair?, keys, gap]
    rw [maxNesting, value]
    rfl
  exact line?_pair (by intro tail same; cases same) pair rfl

theorem line?_trace (engine : Node) (rest : List Char) :
    line? ⟨[("engine", engine)], ["engine"]⟩ ("[trace]\n".toList ++ rest) =
      some (⟨[("engine", engine), ("trace", .table .opened [])], ["trace"]⟩, '\n' :: rest) := by
  rfl

theorem line?_enabled (engine : Node) (b : Bool) (rest : List Char) :
    line? ⟨[("engine", engine), ("trace", .table .opened [])], ["trace"]⟩
        ("enabled = ".toList ++ ((Configuration.boolText b).toList ++ '\n' :: rest)) =
      some (⟨[("engine", engine), ("trace", .table .opened [("enabled", .value (.boolean b))])], ["trace"]⟩,
        '\n' :: rest) := by
  cases b <;> rfl

end Document

end Toml

namespace Configuration

/-- The values that a document or the environment may give, each or none of them: a depth that fits a
signed integer of 64 bits, and a switch. -/
structure Layer where
  maxDepth : Option Nat
  traceEnabled : Option Bool
  small : ∀ n, maxDepth = some n → (n : Int) ≤ Int64.maxValue.toInt

namespace Layer

open Toml (Datum Document Node)

def depthLine (layer : Layer) : List Char :=
  layer.maxDepth.elim [] fun n => "max_depth = ".toList ++ (Decimal.digits n ++ ['\n'])

def switchLine (layer : Layer) : List Char :=
  layer.traceEnabled.elim [] fun b => "enabled = ".toList ++ ((boolText b).toList ++ ['\n'])

def characters (layer : Layer) : List Char :=
  "[engine]\n".toList ++ (layer.depthLine ++ ("\n[trace]\n".toList ++ layer.switchLine))

theorem characters_eq (layer : Layer) : layer.characters =
    "[engine]\n".toList ++ (layer.depthLine ++ ("\n[trace]\n".toList ++ layer.switchLine)) := rfl

def document (layer : Layer) : String := String.ofList layer.characters

def depthEntries (layer : Layer) : List (String × Datum) :=
  (layer.maxDepth.map fun n : Nat => ("max_depth", .integer (Int64.ofInt n))).toList

def switchEntries (layer : Layer) : List (String × Datum) :=
  (layer.traceEnabled.map fun b => ("enabled", .boolean b)).toList

def nodes (entries : List (String × Datum)) : Toml.Entries :=
  entries.map fun entry => (entry.1, .value entry.2)

theorem lines?_trace (layer : Layer) (engine : Node) (bound : Nat) :
    Document.lines? (bound + 3) ⟨[("engine", engine)], ["engine"]⟩
        ("\n[trace]\n".toList ++ layer.switchLine) =
      some ⟨[("engine", engine), ("trace", .table .opened (nodes layer.switchEntries))], ["trace"]⟩ := by
  rw [Document.lines?_line rfl (by simp) (Document.line?_trace engine layer.switchLine) rfl]
  rw [switchLine, switchEntries]
  cases layer.traceEnabled with
  | none => rfl
  | some b =>
    have enabled := Document.line?_enabled engine b []
    exact (Document.lines?_line rfl (by simp) enabled rfl _).trans rfl

theorem lines?_engine (layer : Layer) (bound : Nat) :
    Document.lines? (bound + 5) .empty layer.characters =
      some ⟨[("engine", .table .opened (nodes layer.depthEntries)),
        ("trace", .table .opened (nodes layer.switchEntries))], ["trace"]⟩ := by
  rw [characters_eq, Document.lines?_line rfl (by simp) (Document.line?_engine _) rfl]
  rw [depthLine, depthEntries]
  cases given : layer.maxDepth with
  | none => exact layer.lines?_trace _ _
  | some n =>
    have line := Document.line?_maxDepth (layer.small n given) ("\n[trace]\n".toList ++ layer.switchLine)
    rw [Option.elim_some, List.append_assoc, List.append_assoc]
    exact (Document.lines?_line rfl (by simp) line rfl _).trans (layer.lines?_trace _ _)

theorem data_nodes (entries : List (String × Datum)) : Node.data (nodes entries) = entries := by
  induction entries with
  | nil => rfl
  | cons entry rest ih => rw [nodes, List.map_cons, Node.data, ← nodes, ih, Node.datum]

/-- A document of a layer is read as two tables with the values of the layer. -/
theorem read?_document (layer : Layer) :
    Toml.read? layer.document =
      some [("engine", .table layer.depthEntries), ("trace", .table layer.switchEntries)] := by
  have chars : skipMark layer.document.toList = layer.characters := by
    have opened : "[engine]\n".toList = '[' :: "engine]\n".toList := by decide
    rw [document, String.toList_ofList, characters_eq, opened, List.cons_append]
    exact skipMark_cons (by decide) _
  obtain ⟨bound, room⟩ : ∃ bound, layer.characters.length + 1 = bound + 5 := by
    have long : "[engine]\n".toList.length = 9 := by decide
    refine ⟨(layer.depthLine ++ ("\n[trace]\n".toList ++ layer.switchLine)).length + 5, ?_⟩
    rw [characters_eq, List.length_append, long]
    omega
  simp only [Toml.read?, chars, room, lines?_engine, Option.map_some, Node.data, Node.datum, data_nodes]

end Layer

end Configuration

end FrameMachine
