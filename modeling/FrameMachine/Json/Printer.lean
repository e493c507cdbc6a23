import FrameMachine.Json.Basic

/-! JSON text without blanks. Quotes, backslashes and control characters are escaped, all other
characters stand for themselves. Text is built in front of what follows it. -/

namespace FrameMachine

namespace Number

/-- A decimal is written as its digits and a power of ten. -/
def chars : Number → List Char
  | .integer n => Decimal.chars n
  | .decimal negative significand exponent =>
    (if negative then ['-'] else []) ++ Decimal.digits significand ++ 'e' :: Decimal.chars exponent

end Number

namespace Json

def hexChar (n : Nat) : Char := (Nat.toDigits 16 n).headD '0'

/-- One character of a string. -/
def charText (c : Char) : List Char :=
  match c with
  | '"' => ['\\', '"']
  | '\\' => ['\\', '\\']
  | '\x08' => ['\\', 'b']
  | '\x0c' => ['\\', 'f']
  | '\n' => ['\\', 'n']
  | '\r' => ['\\', 'r']
  | '\t' => ['\\', 't']
  | c =>
    if c.toNat < 0x20 then ['\\', 'u', '0', '0', hexChar (c.toNat / 16), hexChar (c.toNat % 16)]
    else [c]

def stringText (s : String) (rest : List Char) : List Char :=
  '"' :: (s.toList.flatMap charText ++ '"' :: rest)

mutual

/-- The text of a value in front of `rest`. -/
def render : Json → List Char → List Char
  | .null, rest => "null".toList ++ rest
  | .bool true, rest => "true".toList ++ rest
  | .bool false, rest => "false".toList ++ rest
  | .number n, rest => n.chars ++ rest
  | .string s, rest => stringText s rest
  | .array [], rest => '[' :: ']' :: rest
  | .array (first :: others), rest => '[' :: render first (renderItems others (']' :: rest))
  | .object [], rest => '\x7b' :: '\x7d' :: rest
  | .object ((key, value) :: others), rest =>
    '\x7b' :: stringText key (':' :: render value (renderMembers others ('\x7d' :: rest)))

/-- Each item stands behind a comma. -/
def renderItems : List Json → List Char → List Char
  | [], rest => rest
  | first :: others, rest => ',' :: render first (renderItems others rest)

/-- Each member stands behind a comma. -/
def renderMembers : List (String × Json) → List Char → List Char
  | [], rest => rest
  | (key, value) :: others, rest =>
    ',' :: stringText key (':' :: render value (renderMembers others rest))

end

/-- The text of a value. -/
def compact (json : Json) : String := String.ofList (json.render [])

end Json

end FrameMachine
