/-! Characters and what is read off them: white space and the trimming of text, lower case, hexadecimal
digits, and the mark of the byte order that a text may start with. -/

namespace FrameMachine

/-- The characters with the property White_Space. -/
def isBlank (c : Char) : Bool :=
  let n := c.toNat
  (0x9 ≤ n && n ≤ 0xD) || n == 0x20 || n == 0x85 || n == 0xA0 || n == 0x1680 ||
    (0x2000 ≤ n && n ≤ 0x200A) || n == 0x2028 || n == 0x2029 || n == 0x202F || n == 0x205F ||
    n == 0x3000

def trimStart (cs : List Char) : List Char := cs.dropWhile isBlank

def trimEnd (cs : List Char) : List Char := (cs.reverse.dropWhile isBlank).reverse

/-- The lower case of a character. Beyond ASCII only the Kelvin sign has a lower case in ASCII; the
other characters beyond it never become part of a word in ASCII, and stay as they are. -/
def lowerChar (c : Char) : Char := if c = '\u212A' then 'k' else c.toLower

def lowerText (s : String) : String := String.ofList (s.toList.map lowerChar)

/-- The text without one mark of the byte order in front, which means nothing. -/
def skipMark : List Char → List Char
  | '\uFEFF' :: rest => rest
  | cs => cs

namespace Hexadecimal

/-- The value of a digit, in either case. -/
def digit? (c : Char) : Option Nat :=
  if c.isDigit then some (c.toNat - '0'.toNat)
  else if 'a' ≤ c ∧ c ≤ 'f' then some (c.toNat - 'a'.toNat + 10)
  else if 'A' ≤ c ∧ c ≤ 'F' then some (c.toNat - 'A'.toNat + 10)
  else none

/-- The number that a run of digits stands for, most significant first. -/
def value? (cs : List Char) : Option Nat :=
  cs.foldlM (fun n c => (digit? c).map fun d => 16 * n + d) 0

end Hexadecimal

end FrameMachine
