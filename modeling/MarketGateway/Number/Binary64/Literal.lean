import MarketGateway.Number.Binary64
import MarketGateway.Text.Letters
import MarketGateway.Text.Numeral

/-!
# Literals of doubles

`Binary64.ofText?` reads a number as a setting gives it: an optional sign, digits with at most one
point and at least one digit, and an optional exponent; or `inf`, `infinity` or `nan` in letters of
any case. The result is the nearest double.
-/

namespace MarketGateway.Binary64

open Text

/-- A run of digits at the start of a text: their value, their number and what follows. -/
def takeDigits (acc count : Nat) : List Char → Nat × Nat × List Char
  | [] => (acc, count, [])
  | c :: rest =>
    match digitValue? c with
    | some d => takeDigits (acc * 10 + d) (count + 1) rest
    | none => (acc, count, c :: rest)

/-- The exponent at the end of a literal. -/
def exponent? : List Char → Option Int
  | [] => some 0
  | c :: rest =>
    if c = 'e' ∨ c = 'E' then
      let (negative, digits) :=
        match rest with
        | '+' :: r => (false, r)
        | '-' :: r => (true, r)
        | r => (false, r)
      if digits.isEmpty then none
      else (digitsValue? 0 digits).map fun n => if negative then -(n : Int) else n
    else none

/-- A literal without its sign. -/
def magnitude? (negative : Bool) (cs : List Char) : Option Binary64 :=
  let word := lower (String.ofList cs)
  if word = "inf" ∨ word = "infinity" then some (infinite negative)
  else if word = "nan" then some nan
  else
    let (whole, wholeCount, rest) := takeDigits 0 0 cs
    let (value, count, fraction, rest) :=
      match rest with
      | '.' :: r =>
        let (v, n, r) := takeDigits whole 0 r
        (v, wholeCount + n, n, r)
      | r => (whole, wholeCount, 0, r)
    if count = 0 then none
    else (exponent? rest).map fun e => ofDecimal negative value (e - fraction)

/-- Reads a literal. -/
def ofText? (s : String) : Option Binary64 :=
  match s.toList with
  | '+' :: rest => magnitude? false rest
  | '-' :: rest => magnitude? true rest
  | cs => magnitude? false cs

end MarketGateway.Binary64
