import FrameMachine.Binary64

/-! Floating-point numbers as text: digits with an optional point and exponent, digits missing on at
most one side of the point, or one of the words for infinity and for no number, in any case. -/

namespace FrameMachine.Binary64

/-- A word in lower-case letters. Only ASCII has case here. -/
def lower (cs : List Char) : List Char := cs.map Char.toLower

/-- Reads the exponent behind the letter e, to the end of the text. -/
def exponentText? : List Char → Option Int
  | [] => some 0
  | 'e' :: rest => Decimal.signed? rest
  | 'E' :: rest => Decimal.signed? rest
  | _ => none

/-- Reads digits, an optional point and an optional exponent, to the end of the text. -/
def digitsText? (negative : Bool) (cs : List Char) : Option Binary64 :=
  let whole := cs.takeWhile Char.isDigit
  let rest := cs.dropWhile Char.isDigit
  let (fraction, rest) :=
    match rest with
    | '.' :: rest => (rest.takeWhile Char.isDigit, rest.dropWhile Char.isDigit)
    | _ => ([], rest)
  if whole.isEmpty && fraction.isEmpty then none
  else
    (exponentText? rest).map fun exponent =>
      ofDecimal negative (Decimal.value (whole ++ fraction)) (exponent - fraction.length)

def unsignedText? (negative : Bool) (cs : List Char) : Option Binary64 :=
  let word := lower cs
  if word = "inf".toList ∨ word = "infinity".toList then some (.infinite negative)
  else if word = "nan".toList then some .notANumber
  else digitsText? negative cs

def ofText? : List Char → Option Binary64
  | '-' :: rest => unsignedText? true rest
  | '+' :: rest => unsignedText? false rest
  | cs => unsignedText? false cs

end FrameMachine.Binary64
