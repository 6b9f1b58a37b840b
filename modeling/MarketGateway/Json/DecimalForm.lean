import MarketGateway.Json.Form
import MarketGateway.Number.Binary64.Shortest
import MarketGateway.Number.Decimal.Literal

/-!
# Forms of decimals

Decimals are written as texts. `decimalText` reads texts only, `optionalDecimalText` also takes
`null` and the empty text for none, and `decimal` reads numbers too.
-/

namespace MarketGateway.Json.Form

/-- Decimals given as texts. -/
def decimalText : Form Decimal := converted Decimal.ofText? Decimal.toText

/-- Decimals given as texts, or none: `null`, the empty text or, where it may be left out,
nothing. -/
def optionalDecimalText : Form (Option Decimal) where
  read depth cs :=
    match skipBlank cs with
    | 'n' :: rest => (expectWord ['u', 'l', 'l'] rest).map (none, ·)
    | cs =>
      readText (fun s => if s = "" then some none else (Decimal.ofText? s).map some) depth cs
  ofJson
    | null => some none
    | string s => if s = "" then some none else (Decimal.ofText? s).map some
    | _ => none
  toJson d := Json.optional (d.map fun d => string d.toText)
  absent := some none

/-- The decimal of a number; a double counts by its shortest text without an exponent. -/
def decimalOfNumber : Number → Option Decimal
  | .whole n => some (Decimal.ofInt n)
  | .real x => Decimal.plain? x.positional

/-- Decimals given as texts or numbers. -/
def decimal : Form Decimal where
  read depth cs :=
    let finish (outcome : Except Fault (Number × List Char)) :
        Except Fault (Decimal × List Char) :=
      match outcome with
      | .error fault => .error fault
      | .ok (n, rest) =>
        match decimalOfNumber n with
        | some d => .ok (d, rest)
        | none => .error .mismatched
    match skipBlank cs with
    | [] => .error .truncated
    | c :: rest =>
      if c = '"' then readText Decimal.ofText? depth (c :: rest)
      else if c = '-' then finish (readNumber true rest)
      else if (digit? c).isSome then finish (readNumber false (c :: rest))
      else if (c = '[' ∨ c = '\x7b') ∧ depth = 0 then .error .malformed
      else .error (wrongKind (c :: rest))
  ofJson
    | string s => Decimal.ofText? s
    | number n => decimalOfNumber n
    | _ => none
  toJson d := string d.toText

end MarketGateway.Json.Form
