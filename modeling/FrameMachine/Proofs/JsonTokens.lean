import FrameMachine.Json.Printer
import FrameMachine.Json.Token

/-! The tokens of printed JSON. Text that a value is printed as is split into exactly the tokens of that
value, whatever follows, as long as a number is not continued by what follows it. Strings of all kinds
come back, and so do the numbers that encodings use: integers of 64 bits. -/

namespace FrameMachine

/-- A run of one class of characters ends where the class ends. -/
theorem takeWhile_run {within : Char → Bool} {run rest : List Char}
    (inside : ∀ c ∈ run, within c = true) (ends : ∀ c, rest.head? = some c → within c = false) :
    (run ++ rest).takeWhile within = run ∧ (run ++ rest).dropWhile within = rest := by
  rw [List.takeWhile_append_of_pos inside, List.dropWhile_append_of_pos inside]
  cases rest with
  | nil => simp
  | cons c rest => simp [ends c rfl]

namespace Decimal

theorem digits_ne_nil (n : Nat) : digits n ≠ [] := Nat.toDigits_ne_nil

theorem digits_head_ne_zero {n : Nat} (positive : 0 < n) : (digits n).head? ≠ some '0' := by
  induction n using Nat.strongRecOn with
  | ind n ih =>
    by_cases small : n < 10
    · have checked : ∀ d < 10, 0 < d → [Nat.digitChar d].head? ≠ some '0' := by decide
      rw [digits, Nat.toDigits_of_lt_base small]
      exact checked n small positive
    · have shorter := ih (n / 10) (by omega) (by omega)
      obtain ⟨c, rest, leading⟩ := List.exists_cons_of_ne_nil (digits_ne_nil (n / 10))
      rw [digits, Nat.toDigits_of_base_le (by decide) (by omega), ← digits, leading]
      rw [leading] at shorter
      exact shorter

/-- Only zero is written with a leading zero, and that is its only digit. -/
theorem digits_no_leading_zero (n : Nat) :
    ¬ (1 < (digits n).length ∧ (digits n).head? = some '0') := by
  rintro ⟨long, zero⟩
  cases n with
  | zero => exact absurd long (by decide)
  | succ n => exact digits_head_ne_zero n.succ_pos zero

theorem digits_isDigit {n : Nat} {c : Char} (member : c ∈ digits n) : c.isDigit = true :=
  List.all_eq_true.mp (digits_all_isDigit n) c member

theorem digits_eq_cons (n : Nat) : ∃ c rest, digits n = c :: rest ∧ c.isDigit = true := by
  obtain ⟨c, rest, leading⟩ := List.exists_cons_of_ne_nil (digits_ne_nil n)
  exact ⟨c, rest, leading, digits_isDigit (leading ▸ List.mem_cons_self)⟩

end Decimal

namespace Json

/-- What may follow a value in printed text: nothing, a comma or the end of a container. -/
def Ends (rest : List Char) : Prop :=
  ∀ c, rest.head? = some c → c = ',' ∨ c = ']' ∨ c = '\x7d'

namespace Token

theorem takeWhile_digits {n : Nat} {rest : List Char} (ends : ∀ c, rest.head? = some c → c.isDigit = false) :
    (Decimal.digits n ++ rest).takeWhile Char.isDigit = Decimal.digits n ∧
      (Decimal.digits n ++ rest).dropWhile Char.isDigit = rest :=
  takeWhile_run (fun _ => Decimal.digits_isDigit) ends

theorem unsigned?_digits (negative : Bool) (n : Nat) {rest : List Char} (ends : Ends rest) :
    unsigned? negative (Decimal.digits n ++ rest) = some (.ofWhole negative n, rest) := by
  have undigit : ∀ c, rest.head? = some c → c.isDigit = false := by
    intro c first
    rcases ends c first with rfl | rfl | rfl <;> rfl
  obtain ⟨taken, dropped⟩ := takeWhile_digits (n := n) undigit
  have accepted : ¬ ((Decimal.digits n).isEmpty = true ∨
      (1 < (Decimal.digits n).length ∧ (Decimal.digits n).head? = some '0')) := by
    rintro (empty | leading)
    · exact Decimal.digits_ne_nil n (List.isEmpty_iff.mp empty)
    · exact Decimal.digits_no_leading_zero n leading
  have ended : afterFraction? negative (Decimal.digits n) [] rest =
      some (.ofWhole negative n, rest) := by
    simp only [afterFraction?, List.append_nil, Decimal.value_digits]
    cases rest with
    | nil => rfl
    | cons c rest => rcases ends c rfl with rfl | rfl | rfl <;> rfl
  simp only [unsigned?, taken, dropped, if_neg accepted]
  cases rest with
  | nil => exact ended
  | cons c rest => rcases ends c rfl with rfl | rfl | rfl <;> exact ended

theorem next?_blank {c : Char} (blank : isBlank c = true) (rest : List Char) :
    next? (c :: rest) = none := by
  have cases : c = ' ' ∨ c = '\t' ∨ c = '\n' ∨ c = '\r' := by
    simpa [isBlank, or_assoc] using blank
  rcases cases with rfl | rfl | rfl | rfl <;> rfl

theorem scan_next {cs rest : List Char} {token : Token} (done : List Token)
    (next : next? cs = some (token, rest)) : scan done cs = scan (token :: done) rest := by
  cases cs with
  | nil => cases next
  | cons c cs =>
    have solid : ¬ isBlank c = true := by
      intro blank
      rw [next?_blank blank] at next
      cases next
    rw [scan, if_neg solid]
    split <;> simp_all

theorem hexChar_digit {n : Nat} (small : n < 16) : Hexadecimal.digit? (hexChar n) = some n := by
  have checked : ∀ d < 16, Hexadecimal.digit? (hexChar d) = some d := by decide
  exact checked n small

theorem pieces_printable (done : List Piece) {c : Char} (quote : c ≠ '"') (backslash : c ≠ '\\')
    (printable : ¬ c.toNat < 0x20) (rest : List Char) :
    pieces done (c :: rest) = pieces (.char c :: done) rest := by
  rw [pieces.eq_def]
  split
  next empty => cases empty
  next same => exact (quote (List.cons.inj same).1).elim
  next same => exact (backslash (List.cons.inj same).1).elim
  next same => exact (backslash (List.cons.inj same).1).elim
  next same =>
    cases same
    exact if_neg printable

theorem pieces_charText (done : List Piece) (c : Char) (rest : List Char) :
    pieces done (charText c ++ rest) = pieces (.char c :: done) rest := by
  unfold charText
  split
  iterate 7 rfl
  next quote backslash _ _ _ _ _ =>
    split
    next control =>
      have code : Hexadecimal.value? ['0', '0', hexChar (c.toNat / 16), hexChar (c.toNat % 16)] =
          some c.toNat := by
        have high := hexChar_digit (n := c.toNat / 16) (by omega)
        have low := hexChar_digit (n := c.toNat % 16) (by omega)
        have sum : 16 * (c.toNat / 16) + c.toNat % 16 = c.toNat := Nat.div_add_mod _ _
        have zero : Hexadecimal.digit? '0' = some 0 := rfl
        simp [Hexadecimal.value?, high, low, zero, sum]
      have whole : Piece.ofCode c.toNat = .char c := by
        rw [Piece.ofCode, if_neg (by omega), Char.ofNat_toNat]
      simp only [List.cons_append, List.nil_append, pieces, code, whole]
    next printable => exact pieces_printable done quote backslash printable rest

theorem pieces_string (done : List Piece) (cs rest : List Char) :
    pieces done (cs.flatMap charText ++ '"' :: rest) = some ((cs.map .char).reverse ++ done, rest) := by
  induction cs generalizing done with
  | nil => rfl
  | cons c cs ih =>
    rw [List.flatMap_cons, List.append_assoc, pieces_charText, ih]
    simp

theorem join_chars (cs rest : List Char) :
    join (cs.map .char) rest = some (cs.reverse ++ rest) := by
  induction cs generalizing rest with
  | nil => rfl
  | cons c cs ih =>
    rw [List.map_cons, join, ih]
    simp

theorem next?_stringText (s : String) (rest : List Char) :
    next? (stringText s rest) = some (.string (some s), rest) := by
  have joined : join (s.toList.map Piece.char).reverse [] = some s.toList := by
    rw [← List.map_reverse, join_chars]
    simp
  have quoted : next? (stringText s rest) = (pieces [] (s.toList.flatMap charText ++ '"' :: rest)).map
      fun found => (.string ((join found.1 []).map String.ofList), found.2) := rfl
  rw [quoted, pieces_string]
  simp [joined]

theorem next?_digit {c : Char} (digit : c.isDigit = true) (rest : List Char) :
    next? (c :: rest) = (unsigned? false (c :: rest)).map fun (n, rest) => (.number n, rest) := by
  unfold next?
  split
  iterate 11
    next same =>
      cases (List.cons.inj same).1
      cases digit
  next => rfl

theorem next?_integer {n : Int} {rest : List Char} (lower : Int64.minValue.toInt ≤ n)
    (upper : n < UInt64.size) (ends : Ends rest) :
    next? (Decimal.chars n ++ rest) = some (.number (.integer n), rest) := by
  cases n with
  | ofNat n =>
    have read := unsigned?_digits false n ends
    have whole : Number.ofWhole false n = .integer n := by
      rw [Number.ofWhole, if_neg Bool.false_ne_true, if_pos (Int.ofNat_lt.mp upper)]
    obtain ⟨c, more, leading, digit⟩ := Decimal.digits_eq_cons n
    rw [leading, whole] at read
    rw [Decimal.chars, leading, List.cons_append, next?_digit digit, ← List.cons_append, read]
    rfl
  | negSucc n =>
    have read := unsigned?_digits true (n + 1) ends
    have whole : Number.ofWhole true (n + 1) = .integer (.negSucc n) := by
      rw [Int.negSucc_eq] at lower ⊢
      rw [Number.ofWhole, if_pos rfl, if_pos ⟨n.succ_pos, lower⟩]
      rfl
    have signed : next? (Decimal.chars (.negSucc n) ++ rest) =
        (unsigned? true (Decimal.digits (n + 1) ++ rest)).map fun (n, rest) => (.number n, rest) := rfl
    rw [signed, read, whole]
    rfl

end Token

mutual

/-- Every number in a value is an integer of 64 bits, with or without sign. -/
def Exact : Json → Prop
  | .number (.integer n) => Int64.minValue.toInt ≤ n ∧ n < UInt64.size
  | .number (.decimal ..) => False
  | .array items => ExactItems items
  | .object members => ExactMembers members
  | _ => True

def ExactItems : List Json → Prop
  | [] => True
  | first :: rest => Exact first ∧ ExactItems rest

def ExactMembers : List (String × Json) → Prop
  | [] => True
  | (_, value) :: rest => Exact value ∧ ExactMembers rest

end

mutual

def tokens : Json → List Token
  | .null => [.null]
  | .bool b => [.bool b]
  | .number n => [.number n]
  | .string s => [.string (some s)]
  | .array [] => [.openArray, .closeArray]
  | .array (first :: others) => .openArray :: (tokens first ++ (itemTokens others ++ [.closeArray]))
  | .object [] => [.openObject, .closeObject]
  | .object ((key, value) :: others) =>
    .openObject :: .string (some key) :: .colon ::
      (tokens value ++ (memberTokens others ++ [.closeObject]))

def itemTokens : List Json → List Token
  | [] => []
  | first :: others => .comma :: (tokens first ++ itemTokens others)

def memberTokens : List (String × Json) → List Token
  | [] => []
  | (key, value) :: others =>
    .comma :: .string (some key) :: .colon :: (tokens value ++ memberTokens others)

end

open Token

theorem ends_renderItems (items : List Json) (rest : List Char) :
    Ends (renderItems items (']' :: rest)) := by
  cases items <;> simp [renderItems, Ends]

theorem ends_renderMembers (members : List (String × Json)) (rest : List Char) :
    Ends (renderMembers members ('\x7d' :: rest)) := by
  cases members <;> simp [renderMembers, Ends]

mutual

theorem scan_render (json : Json) (exact : json.Exact) (done : List Token) {rest : List Char}
    (ends : Ends rest) : scan done (json.render rest) = scan (json.tokens.reverse ++ done) rest := by
  match json with
  | .null => exact scan_next done rfl
  | .bool true => exact scan_next done rfl
  | .bool false => exact scan_next done rfl
  | .number (.integer n) => exact scan_next done (next?_integer exact.1 exact.2 ends)
  | .number (.decimal ..) => exact exact.elim
  | .string s => exact scan_next done (next?_stringText s rest)
  | .array [] =>
    rw [render, scan_next done rfl, scan_next _ rfl]
    rfl
  | .array (first :: others) =>
    obtain ⟨here, later⟩ := exact
    rw [render, scan_next done rfl, scan_render first here _ (ends_renderItems others rest),
      scan_renderItems others later, scan_next _ rfl, tokens]
    simp
  | .object [] =>
    rw [render, scan_next done rfl, scan_next _ rfl]
    rfl
  | .object ((key, value) :: others) =>
    obtain ⟨here, later⟩ := exact
    rw [render, scan_next done rfl, scan_next _ (next?_stringText key _), scan_next _ rfl,
      scan_render value here _ (ends_renderMembers others rest),
      scan_renderMembers others later, scan_next _ rfl, tokens]
    simp
termination_by structural json

theorem scan_renderItems (items : List Json) (exact : ExactItems items) (done : List Token)
    (rest : List Char) :
    scan done (renderItems items (']' :: rest)) =
      scan ((itemTokens items).reverse ++ done) (']' :: rest) := by
  match items with
  | [] => rfl
  | first :: others =>
    obtain ⟨here, later⟩ := exact
    rw [renderItems, scan_next done rfl, scan_render first here _ (ends_renderItems others rest),
      scan_renderItems others later, itemTokens]
    simp
termination_by structural items

theorem scan_renderMembers (members : List (String × Json)) (exact : ExactMembers members)
    (done : List Token) (rest : List Char) :
    scan done (renderMembers members ('\x7d' :: rest)) =
      scan ((memberTokens members).reverse ++ done) ('\x7d' :: rest) := by
  match members with
  | [] => rfl
  | (key, value) :: others =>
    obtain ⟨here, later⟩ := exact
    rw [renderMembers, scan_next done rfl, scan_next _ (next?_stringText key _), scan_next _ rfl,
      scan_render value here _ (ends_renderMembers others rest), scan_renderMembers others later,
      memberTokens]
    simp
termination_by structural members

end

theorem tokens_compact {json : Json} (exact : json.Exact) :
    Token.ofText? json.compact = some json.tokens := by
  have nothing : Ends [] := nofun
  rw [Token.ofText?, compact, String.toList_ofList, scan_render json exact [] nothing, scan]
  simp

end Json

end FrameMachine
