import FrameMachine.Decimal

/-! Real numbers in the precision of 64-bit floating point: 53 significant bits, an exponent that
ends at 1024 above and at -1074 below, and a half that goes to the even neighbour. Everything is
computed in exact integer arithmetic. -/

namespace FrameMachine

namespace Binary64

/-- A quotient rounded to the nearest integer, a half to the even one. -/
def divNearest (a b : Nat) : Nat :=
  let quotient := a / b
  let twice := 2 * (a % b)
  if twice < b then quotient else if b < twice then quotient + 1 else quotient + quotient % 2

/-- A natural number rounded to 53 significant bits. -/
def roundNat (n : Nat) : Nat :=
  if n < Nat.pow 2 53 then n
  else
    let dropped := n.log2 - 52
    divNearest n (Nat.pow 2 dropped) * Nat.pow 2 dropped

/-- The least number that rounds to infinity: half a unit above the greatest finite one. -/
def overflow : Nat := Nat.pow 2 1024 - Nat.pow 2 970

/-- The mantissa and the binary exponent of the fraction `a / b`, rounded. -/
def nearest (a b : Nat) : Nat × Int :=
  let scale : Int := (a.log2 : Int) - (b.log2 : Int)
  let small :=
    if 0 ≤ scale then a < b * Nat.pow 2 scale.toNat else a * Nat.pow 2 (-scale).toNat < b
  let exponent := max (scale - if small then 53 else 52) (-1074)
  if 0 ≤ exponent then (divNearest a (b * Nat.pow 2 exponent.toNat), exponent)
  else (divNearest (a * Nat.pow 2 (-exponent).toNat) b, exponent)

end Binary64

/-- A floating-point number. A finite one is `mantissa * 2 ^ exponent` with its sign. -/
inductive Binary64 where
  | notANumber
  | infinite (negative : Bool)
  | finite (negative : Bool) (mantissa : Nat) (exponent : Int)
deriving DecidableEq, Inhabited

namespace Binary64

/-- The number nearest to `significand * 10 ^ exponent`. Exponents far outside the range are settled
by counting digits. -/
def ofDecimal (negative : Bool) (significand : Nat) (exponent : Int) : Binary64 :=
  let places : Int := ((Decimal.digits significand).length : Int) + exponent
  if significand = 0 ∨ places < -330 then .finite negative 0 0
  else if 310 < places then .infinite negative
  else
    let (mantissa, binary) :=
      if 0 ≤ exponent then nearest (significand * Nat.pow 10 exponent.toNat) 1
      else nearest significand (Nat.pow 10 (-exponent).toNat)
    if 0 < binary ∧ Nat.pow 2 1024 ≤ mantissa * Nat.pow 2 binary.toNat then .infinite negative
    else .finite negative mantissa binary

def isZero : Binary64 → Bool
  | .finite _ mantissa _ => mantissa == 0
  | _ => false

/-- The nearest integer of 64 bits without sign. A half goes up, what lies outside the range goes to
its nearer end, and what is not a number goes to zero. -/
def toUInt64 : Binary64 → UInt64
  | .notANumber => 0
  | .infinite negative => if negative then 0 else UInt64.ofNat (UInt64.size - 1)
  | .finite true _ _ => 0
  | .finite false mantissa exponent =>
    let whole :=
      if 0 ≤ exponent then mantissa * Nat.pow 2 exponent.toNat
      else (2 * mantissa + Nat.pow 2 (-exponent).toNat) / (2 * Nat.pow 2 (-exponent).toNat)
    UInt64.ofNat (min whole (UInt64.size - 1))

end Binary64

end FrameMachine
