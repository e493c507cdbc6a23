import FrameMachine.Binary64
import FrameMachine.Characters
import FrameMachine.Toml.Moment

/-! The data of TOML documents, and those that are written as a single word: numbers, truth values, dates
and times. Digits may be grouped by single underscores. -/

namespace FrameMachine.Toml

/-- A table keeps its entries in order. -/
inductive Datum where
  | boolean (b : Bool)
  | integer (n : Int64)
  | real (x : Binary64)
  | text (s : String)
  /-- A date, a time of day or both, as it is written. -/
  | moment (s : String)
  | list (items : List Datum)
  | table (entries : List (String × Datum))
deriving Inhabited

def isWordChar (c : Char) : Bool :=
  c.isAlphanum || c == '_' || c == '+' || c == '-' || c == '.' || c == ':'

/-- The digits without the underscores, each of which stands between two digits. -/
def grouped? (isDigit : Char → Bool) : List Char → Option (List Char)
  | [] => none
  | [c] => if isDigit c then some [c] else none
  | c :: '_' :: rest => if isDigit c then (grouped? isDigit rest).map (c :: ·) else none
  | c :: rest => if isDigit c then (grouped? isDigit rest).map (c :: ·) else none

def integer? (n : Int) : Option Datum :=
  if Int64.minValue.toInt ≤ n ∧ n ≤ Int64.maxValue.toInt then some (.integer (Int64.ofInt n)) else none

/-- The number that digits stand for in a base up to sixteen. -/
def inBase? (base : Nat) (run : List Char) : Option Datum := do
  let isDigit c := (Hexadecimal.digit? c).any (· < base)
  let digits ← grouped? isDigit run
  integer? (digits.foldl (fun (n : Nat) c => base * n + (Hexadecimal.digit? c).getD 0) 0 : Nat)

def withSign (negative : Bool) (n : Nat) : Int := if negative then -(n : Int) else n

def inGroup (c : Char) : Bool := c.isDigit || c == '_'

/-- Reads the exponent behind the letter e, to the end of the word. -/
def exponent? : List Char → Option Int
  | '-' :: run => (grouped? Char.isDigit run).map fun digits => withSign true (Decimal.value digits)
  | '+' :: run => (grouped? Char.isDigit run).map fun digits => withSign false (Decimal.value digits)
  | run => (grouped? Char.isDigit run).map fun digits => withSign false (Decimal.value digits)

/-- A number beyond the greatest is refused, one below the least is infinite. -/
def real? (x : Binary64) : Option Datum :=
  if x = .infinite false then none else some (.real x)

/-- Reads what follows the whole part of a number, to the end of the word. -/
def afterWhole? (negative : Bool) (whole : List Char) : List Char → Option Datum
  | [] => integer? (withSign negative (Decimal.value whole))
  | '.' :: rest => do
    let fraction ← grouped? Char.isDigit (rest.takeWhile inGroup)
    let exponent ←
      match rest.dropWhile inGroup with
      | [] => some 0
      | c :: rest => if c = 'e' ∨ c = 'E' then exponent? rest else none
    real? (.ofDecimal negative (Decimal.value (whole ++ fraction)) (exponent - fraction.length))
  | c :: rest =>
    if c = 'e' ∨ c = 'E' then do
      real? (.ofDecimal negative (Decimal.value whole) (← exponent? rest))
    else none

/-- Reads a number in decimal digits. Only zero itself starts with a zero. -/
def decimal? (negative : Bool) (word : List Char) : Option Datum :=
  match grouped? Char.isDigit (word.takeWhile inGroup) with
  | none => none
  | some whole =>
    if 1 < whole.length ∧ whole.head? = some '0' then none
    else afterWhole? negative whole (word.dropWhile inGroup)

def signed? (negative : Bool) (word : List Char) : Option Datum :=
  if word = "inf".toList then some (.real (.infinite negative))
  else if word = "nan".toList then some (.real .notANumber)
  else decimal? negative word

def number? : List Char → Option Datum
  | '0' :: 'x' :: run => inBase? 16 run
  | '0' :: 'o' :: run => inBase? 8 run
  | '0' :: 'b' :: run => inBase? 2 run
  | '-' :: word => signed? true word
  | '+' :: word => signed? false word
  | word => signed? false word

def word? (word : List Char) : Option Datum :=
  if word = "true".toList then some (.boolean true)
  else if word = "false".toList then some (.boolean false)
  else if Moment.isMoment word then some (.moment (String.ofList word))
  else number? word

/-- Reads a word. A blank may stand between a date and a time. -/
def scalar? (cs : List Char) : Option (Datum × List Char) :=
  let word := cs.takeWhile isWordChar
  let rest := cs.dropWhile isWordChar
  match rest with
  | ' ' :: more =>
    let time := more.takeWhile isWordChar
    if Moment.isMoment (word ++ ' ' :: time) then
      some (.moment (String.ofList (word ++ ' ' :: time)), more.dropWhile isWordChar)
    else (word? word).map fun v => (v, rest)
  | rest => (word? word).map fun v => (v, rest)

end FrameMachine.Toml
