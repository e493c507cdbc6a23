import FrameMachine.Characters

/-! Quoted text and keys of TOML documents. Text in double quotes has escapes, text in single quotes
has none. Three quotes hold a block of several lines, whose lines end in a line feed however they end
in the document. -/

namespace FrameMachine.Toml

/-- What may stand in text and in comments: the tab, and all that is not a control character. -/
def isPlain (c : Char) : Bool := c == '\t' || (0x20 ≤ c.toNat && c.toNat != 0x7F)

/-- The blanks within a line. -/
def isGap (c : Char) : Bool := c == ' ' || c == '\t'

def skipGap (cs : List Char) : List Char := cs.dropWhile isGap

/-- The rest behind the end of a line. -/
def newline? : List Char → Option (List Char)
  | '\n' :: rest => some rest
  | '\r' :: '\n' :: rest => some rest
  | _ => none

/-- The character that a letter stands for behind a backslash. -/
def escaped? : Char → Option Char
  | '"' => some '"'
  | '\\' => some '\\'
  | 'b' => some '\x08'
  | 'f' => some '\x0c'
  | 'n' => some '\n'
  | 'r' => some '\r'
  | 't' => some '\t'
  | _ => none

/-- The character with a hexadecimal code. Surrogates are no characters. -/
def coded? (digits : List Char) : Option Char := do
  let code ← Hexadecimal.value? digits
  if code < 0xD800 ∨ (0xDFFF < code ∧ code < 0x110000) then some (Char.ofNat code) else none

/-- What a quote closes: the text at once, or a block if two more follow. A block may end in one or
two quotes of its own, which stand before the closing three. -/
def closing? (quote : Char) (block : Bool) (rest : List Char) :
    Option (List Char × List Char) :=
  if block then
    let more := min 4 (rest.takeWhile (· == quote)).length
    if 2 ≤ more then some (List.replicate (more - 2) quote, rest.drop more) else none
  else some ([], rest)

/-- Reads text behind its opening double quotes. While `trimming`, behind a backslash that ends a
line, blanks and line ends are dropped. The characters are kept in reverse order. -/
def basic (block trimming : Bool) (done : List Char) : List Char → Option (String × List Char)
  | [] => none
  | '\\' :: 'u' :: a :: b :: c :: d :: rest =>
    match coded? [a, b, c, d] with
    | some found => basic block false (found :: done) rest
    | none => none
  | '\\' :: 'U' :: a :: b :: c :: d :: e :: f :: g :: h :: rest =>
    match coded? [a, b, c, d, e, f, g, h] with
    | some found => basic block false (found :: done) rest
    | none => none
  | '\\' :: c :: rest =>
    match escaped? c with
    | some found => basic block false (found :: done) rest
    | none =>
      if block && (newline? (skipGap (c :: rest))).isSome then basic block true done (c :: rest)
      else none
  | '"' :: rest =>
    match closing? '"' block rest with
    | some (last, after) => some (String.ofList (done.reverse ++ last), after)
    | none => basic block false ('"' :: done) rest
  | '\r' :: '\n' :: rest =>
    if block then basic block trimming (if trimming then done else '\n' :: done) rest else none
  | '\n' :: rest =>
    if block then basic block trimming (if trimming then done else '\n' :: done) rest else none
  | c :: rest =>
    if trimming && isGap c then basic block trimming done rest
    else if isPlain c then basic block false (c :: done) rest
    else none

/-- Reads text behind its opening single quotes. -/
def literal (block : Bool) (done : List Char) : List Char → Option (String × List Char)
  | [] => none
  | '\'' :: rest =>
    match closing? '\'' block rest with
    | some (last, after) => some (String.ofList (done.reverse ++ last), after)
    | none => literal block ('\'' :: done) rest
  | '\r' :: '\n' :: rest => if block then literal block ('\n' :: done) rest else none
  | '\n' :: rest => if block then literal block ('\n' :: done) rest else none
  | c :: rest => if isPlain c then literal block (c :: done) rest else none

/-- A line end right behind the opening of a block is not part of it. -/
def skipNewline (cs : List Char) : List Char := (newline? cs).getD cs

def text? : List Char → Option (String × List Char)
  | '"' :: '"' :: '"' :: rest => basic true false [] (skipNewline rest)
  | '"' :: rest => basic false false [] rest
  | '\'' :: '\'' :: '\'' :: rest => literal true [] (skipNewline rest)
  | '\'' :: rest => literal false [] rest
  | _ => none

/-! ### Keys -/

/-- Keys and values nest at most so deep. -/
def maxNesting : Nat := 79

def isBare (c : Char) : Bool := c.isAlphanum || c == '_' || c == '-'

def key? : List Char → Option (String × List Char)
  | '"' :: rest => basic false false [] rest
  | '\'' :: rest => literal false [] rest
  | cs =>
    let run := cs.takeWhile isBare
    if run.isEmpty then none else some (String.ofList run, cs.dropWhile isBare)

/-- Reads at most `room` keys with points between them, and the blanks around each. -/
def keys? : (room : Nat) → List Char → Option (List String × List Char)
  | 0, _ => none
  | room + 1, cs =>
    match key? (skipGap cs) with
    | none => none
    | some (key, rest) =>
      match skipGap rest with
      | '.' :: rest => (keys? room rest).map fun (keys, rest) => (key :: keys, rest)
      | rest => some ([key], rest)

end FrameMachine.Toml
