import FrameMachine.Binary64

/-! JSON values. An object keeps its members in order, repeated keys included. A number is an
integer of 64 bits, with or without sign, or it is a decimal; only an integer is ever accepted where
a whole number is wanted. -/

namespace FrameMachine

inductive Number where
  | integer (n : Int)
  /-- Stands for `significand * 10 ^ exponent` with its sign. -/
  | decimal (negative : Bool) (significand : Nat) (exponent : Int)
deriving DecidableEq, Inhabited

inductive Json where
  | null
  | bool (b : Bool)
  | number (n : Number)
  | string (s : String)
  | array (items : List Json)
  | object (members : List (String × Json))
deriving Inhabited

namespace Number

/-- A number written without point and exponent. Negative zero, and what 64 bits cannot hold, is a
decimal. -/
def ofWhole (negative : Bool) (n : Nat) : Number :=
  if negative then
    if 0 < n ∧ Int64.minValue.toInt ≤ -(n : Int) then .integer (-(n : Int)) else .decimal true n 0
  else
    if n < UInt64.size then .integer n else .decimal false n 0

/-- Drops digits until what is left fits 64 bits, and moves the exponent along. -/
def shorten (significand : Nat) (exponent : Int) : Nat × Int :=
  if significand < UInt64.size then (significand, exponent)
  else shorten (significand / 10) (exponent + 1)
termination_by significand
decreasing_by
  have positive : 0 < UInt64.size := by decide
  omega

/-- Whether a decimal is within the range of floating point, where the leading digits and the power
of ten are rounded before they are multiplied. -/
def isFinite : Number → Bool
  | .integer _ => true
  | .decimal _ significand exponent =>
    let (leading, power) := shorten significand exponent
    leading == 0 || power < 0 ||
      (power ≤ 308 &&
        Binary64.roundNat leading * Binary64.roundNat (Nat.pow 10 power.toNat) < Binary64.overflow)

end Number

namespace Json

def ofInt (n : Int) : Json := .number (.integer n)

def ofNat (n : Nat) : Json := .number (.integer n)

def int64? : Json → Option Int64
  | .number (.integer n) =>
    if Int64.minValue.toInt ≤ n ∧ n ≤ Int64.maxValue.toInt then some (Int64.ofInt n) else none
  | _ => none

def uint64? : Json → Option UInt64
  | .number (.integer n) =>
    if 0 ≤ n ∧ n < (UInt64.size : Int) then some (UInt64.ofNat n.toNat) else none
  | _ => none

/-- Reads null as absence. -/
def optional? {α : Type} (read : Json → Option α) : Json → Option (Option α)
  | .null => some none
  | json => (read json).map some

/-- Reads an array item by item. -/
def list? {α : Type} (read : Json → Option α) : Json → Option (List α)
  | .array items => items.mapM read
  | _ => none

/-- The member with a key, if there is one. A repeated key is an error. -/
def field? (key : String) (members : List (String × Json)) : Option (Option Json) :=
  match members.filter fun member => member.1 = key with
  | [] => some none
  | [member] => some (some member.2)
  | _ => none

end Json

end FrameMachine
