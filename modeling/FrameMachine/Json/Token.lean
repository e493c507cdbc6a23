import FrameMachine.Characters
import FrameMachine.Json.Basic

/-! The tokens of JSON text. A string token has no text if one of its escapes names half of a
surrogate pair and the other half is missing: such a string is well formed, but there is nothing
that it could stand for. -/

namespace FrameMachine.Json

inductive Token where
  | openObject
  | closeObject
  | openArray
  | closeArray
  | comma
  | colon
  | null
  | bool (b : Bool)
  | number (n : Number)
  | string (s : Option String)
deriving DecidableEq, Inhabited

namespace Token

def isBlank (c : Char) : Bool := c == ' ' || c == '\t' || c == '\n' || c == '\r'

/-! ### Strings -/

/-- Part of a string: a character, or one half of a surrogate pair. -/
inductive Piece where
  | char (c : Char)
  | half (code : Nat)
deriving DecidableEq, Inhabited

def Piece.ofCode (code : Nat) : Piece :=
  if 0xD800 ≤ code ∧ code < 0xE000 then .half code else .char (Char.ofNat code)

/-- The character that a letter stands for behind a backslash. -/
def escaped? : Char → Option Char
  | '"' => some '"'
  | '\\' => some '\\'
  | '/' => some '/'
  | 'b' => some '\x08'
  | 'f' => some '\x0c'
  | 'n' => some '\n'
  | 'r' => some '\r'
  | 't' => some '\t'
  | _ => none

/-- Scans a string up to its closing quote. The pieces come in reverse order. -/
def pieces (done : List Piece) : List Char → Option (List Piece × List Char)
  | [] => none
  | '"' :: rest => some (done, rest)
  | '\\' :: 'u' :: a :: b :: c :: d :: rest =>
    match Hexadecimal.value? [a, b, c, d] with
    | some code => pieces (.ofCode code :: done) rest
    | none => none
  | '\\' :: c :: rest =>
    match escaped? c with
    | some c => pieces (.char c :: done) rest
    | none => none
  | c :: rest => if c.toNat < 0x20 then none else pieces (.char c :: done) rest

/-- Joins pieces, given in reverse order, in front of `rest`. A low half needs its high half right
before it, and a high half is never alone. -/
def join : List Piece → List Char → Option (List Char)
  | [], rest => some rest
  | .char c :: before, rest => join before (c :: rest)
  | .half low :: .half high :: before, rest =>
    if 0xDC00 ≤ low ∧ high < 0xDC00 then
      join before (Char.ofNat (0x10000 + (high - 0xD800) * 0x400 + (low - 0xDC00)) :: rest)
    else none
  | .half _ :: _, _ => none

theorem pieces_length {done : List Piece} {cs : List Char} {found : List Piece}
    {rest : List Char} (scanned : pieces done cs = some (found, rest)) :
    rest.length < cs.length := by
  fun_induction pieces done cs <;> simp_all <;> omega

/-! ### Numbers -/

/-- A run of at least one digit, as a number of the given sign. -/
def run? (negative : Bool) (cs : List Char) : Option (Int × List Char) :=
  let run := cs.takeWhile Char.isDigit
  if run.isEmpty then none
  else
    let size : Int := Decimal.value run
    some (cond negative (-size) size, cs.dropWhile Char.isDigit)

/-- The exponent behind the letter e: an optional sign and at least one digit. -/
def exponent? : List Char → Option (Int × List Char)
  | '-' :: rest => run? true rest
  | '+' :: rest => run? false rest
  | cs => run? false cs

/-- Ends a number whose whole and fractional digits have been read. -/
def afterFraction? (negative : Bool) (whole fraction cs : List Char) :
    Option (Number × List Char) :=
  let significand := Decimal.value (whole ++ fraction)
  let places : Int := fraction.length
  let withExponent (rest : List Char) : Option (Number × List Char) :=
    (exponent? rest).map fun (power, rest) =>
      (.decimal negative significand (power - places), rest)
  match cs with
  | 'e' :: rest => withExponent rest
  | 'E' :: rest => withExponent rest
  | _ =>
    some (if fraction.isEmpty then .ofWhole negative significand
      else .decimal negative significand (-places), cs)

/-- Reads a number without its sign: no leading zeros, and digits on both sides of a point. -/
def unsigned? (negative : Bool) (cs : List Char) : Option (Number × List Char) :=
  let whole := cs.takeWhile Char.isDigit
  let rest := cs.dropWhile Char.isDigit
  if whole.isEmpty ∨ (1 < whole.length ∧ whole.head? = some '0') then none
  else
    match rest with
    | '.' :: rest =>
      let fraction := rest.takeWhile Char.isDigit
      if fraction.isEmpty then none
      else afterFraction? negative whole fraction (rest.dropWhile Char.isDigit)
    | _ => afterFraction? negative whole [] rest

theorem length_dropWhile_le {α : Type} (p : α → Bool) (xs : List α) :
    (xs.dropWhile p).length ≤ xs.length :=
  (List.dropWhile_sublist p).length_le

theorem run?_length {negative : Bool} {cs rest : List Char} {size : Int}
    (scanned : run? negative cs = some (size, rest)) : rest.length ≤ cs.length := by
  unfold run? at scanned
  simp only at scanned
  split at scanned
  · simp at scanned
  · simp only [Option.some.injEq, Prod.mk.injEq] at scanned
    rw [← scanned.2]
    exact length_dropWhile_le Char.isDigit cs

theorem exponent?_length {cs rest : List Char} {power : Int}
    (scanned : exponent? cs = some (power, rest)) : rest.length ≤ cs.length := by
  unfold exponent? at scanned
  split at scanned
  all_goals
    have shorter := run?_length scanned
    try simp only [List.length_cons]
    omega

theorem afterFraction?_length {negative : Bool} {whole fraction cs rest : List Char} {n : Number}
    (scanned : afterFraction? negative whole fraction cs = some (n, rest)) :
    rest.length ≤ cs.length := by
  unfold afterFraction? at scanned
  simp only at scanned
  split at scanned
  · obtain ⟨⟨power, after⟩, read, same⟩ := Option.map_eq_some_iff.1 scanned
    have shorter := exponent?_length read
    simp_all
    omega
  · obtain ⟨⟨power, after⟩, read, same⟩ := Option.map_eq_some_iff.1 scanned
    have shorter := exponent?_length read
    simp_all
    omega
  · simp_all

theorem length_dropWhile_lt {α : Type} (p : α → Bool) (xs : List α)
    (starts : (xs.takeWhile p).isEmpty = false) : (xs.dropWhile p).length < xs.length := by
  cases xs with
  | nil => simp at starts
  | cons x xs =>
    by_cases holds : p x
    · have shorter := length_dropWhile_le p xs
      simp only [List.dropWhile_cons, holds, if_true, List.length_cons]
      omega
    · simp [holds] at starts

theorem unsigned?_length {negative : Bool} {cs rest : List Char} {n : Number}
    (scanned : unsigned? negative cs = some (n, rest)) : rest.length < cs.length := by
  unfold unsigned? at scanned
  simp only at scanned
  split at scanned
  · simp at scanned
  next nonempty =>
    have shorter := length_dropWhile_lt Char.isDigit cs (by
      cases empty : (cs.takeWhile Char.isDigit).isEmpty <;> simp_all)
    split at scanned
    next after point =>
      split at scanned
      · simp at scanned
      · have ended := afterFraction?_length scanned
        have dropped := length_dropWhile_le Char.isDigit after
        rw [point] at shorter
        simp only [List.length_cons] at shorter
        omega
    · have ended := afterFraction?_length scanned
      omega

/-! ### Token by token -/

/-- The token that starts the text, and what follows it. -/
def next? : List Char → Option (Token × List Char)
  | '\x7b' :: rest => some (.openObject, rest)
  | '\x7d' :: rest => some (.closeObject, rest)
  | '[' :: rest => some (.openArray, rest)
  | ']' :: rest => some (.closeArray, rest)
  | ',' :: rest => some (.comma, rest)
  | ':' :: rest => some (.colon, rest)
  | 'n' :: 'u' :: 'l' :: 'l' :: rest => some (.null, rest)
  | 't' :: 'r' :: 'u' :: 'e' :: rest => some (.bool true, rest)
  | 'f' :: 'a' :: 'l' :: 's' :: 'e' :: rest => some (.bool false, rest)
  | '"' :: rest =>
    (pieces [] rest).map fun (found, rest) => (.string ((join found []).map String.ofList), rest)
  | '-' :: rest => (unsigned? true rest).map fun (n, rest) => (.number n, rest)
  | cs => (unsigned? false cs).map fun (n, rest) => (.number n, rest)

theorem next?_length {cs rest : List Char} {token : Token}
    (scanned : next? cs = some (token, rest)) : rest.length < cs.length := by
  unfold next? at scanned
  split at scanned
  all_goals first
    | (simp only [Option.some.injEq, Prod.mk.injEq] at scanned
       rw [← scanned.2]
       simp only [List.length_cons]
       omega)
    | (obtain ⟨⟨found, after⟩, read, same⟩ := Option.map_eq_some_iff.1 scanned
       simp only [Prod.mk.injEq] at same
       rw [← same.2]
       first
         | (have shorter := pieces_length read
            simp only [List.length_cons]
            omega)
         | (have shorter := unsigned?_length read
            try simp only [List.length_cons]
            omega))

/-- Splits text into tokens. Blanks separate tokens and are dropped. -/
def scan (done : List Token) (cs : List Char) : Option (List Token) :=
  match cs with
  | [] => some done.reverse
  | c :: rest =>
    if isBlank c then scan done rest
    else
      match _found : next? (c :: rest) with
      | some (token, after) => scan (token :: done) after
      | none => none
termination_by cs.length
decreasing_by
  · simp
  · exact next?_length _found

/-- All tokens of a text. -/
def ofText? (text : String) : Option (List Token) := scan [] text.toList

end Token

end FrameMachine.Json
