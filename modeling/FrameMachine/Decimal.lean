/-! Integers as decimal text. Writing leaves no leading zeros and puts a minus sign in front of a
negative number; the readers accept leading zeros and differ only in the signs that they allow. -/

namespace FrameMachine.Decimal

/-- The digits of a natural number, most significant first. -/
def digits (n : Nat) : List Char := Nat.toDigits 10 n

def chars : Int → List Char
  | .ofNat n => digits n
  | .negSucc n => '-' :: digits (n + 1)

def text (n : Int) : String := String.ofList (chars n)

/-- The number that a run of digits stands for. -/
def value (run : List Char) : Nat := Nat.ofDigitChars 10 run 0

/-- Reads a run of at least one digit and nothing else. -/
def natural? (cs : List Char) : Option Nat :=
  if cs.isEmpty then none else if cs.all Char.isDigit then some (value cs) else none

/-- Reads digits behind an optional plus sign. -/
def unsigned? : List Char → Option Nat
  | '+' :: run => natural? run
  | run => natural? run

/-- Reads digits behind an optional sign. -/
def signed? : List Char → Option Int
  | '-' :: run => (natural? run).map fun n => -(n : Int)
  | run => (unsigned? run).map fun n => (n : Int)

/-- Pads with blanks on the left up to `width`; a longer text stays as it is. -/
def alignRight (width : Nat) (cs : List Char) : List Char :=
  List.replicate (width - cs.length) ' ' ++ cs

theorem value_digits (n : Nat) : value (digits n) = n :=
  Nat.ofDigitChars_toDigits (by decide) (by decide)

theorem digits_all_isDigit (n : Nat) : (digits n).all Char.isDigit = true := by
  rw [List.all_eq_true]
  intro c member
  exact Nat.isDigit_of_mem_toDigits (by decide) (by decide) member

end FrameMachine.Decimal
