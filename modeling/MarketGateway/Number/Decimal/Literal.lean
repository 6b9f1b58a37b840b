import MarketGateway.Number.Decimal
import MarketGateway.Text.Numeral

/-!
# Decimal literals

`Decimal.plain?` reads an optional sign, digits and at most one point; an underscore may follow the
first digit anywhere. Fractional digits that do not fit, because the scale would pass 28 or the
mantissa 96 bits, are cut with rounding on the first of them; what follows it no longer counts, but
has to be digits and underscores. `Decimal.scientific?` reads a plain literal and a power of ten,
and `Decimal.ofText?` takes either. A plain literal of value zero has no sign, whereas a negative
base that an exponent rounds away leaves a zero with its sign.
-/

namespace MarketGateway.Decimal

open Text

/-- What was read of a literal so far. -/
structure Scan where
  mantissa : Nat := 0
  scale : Nat := 0
  seenPoint : Bool := false
  seenDigit : Bool := false

/-- Whether the fraction has all the digits that a scale can count. -/
def Scan.isFull (st : Scan) : Bool := st.seenPoint && maxScale ≤ st.scale

/-- Whether a character may stand behind the first digit that does not fit. -/
def isTailChar (c : Char) : Bool := (digitValue? c).isSome || c == '_'

/-- Rounds on the first digit that does not fit: five and above go away from zero. When that fills
the mantissa one more digit is dropped. -/
def roundOn (negative : Bool) (mantissa scale digit : Nat) : Option Decimal :=
  if digit < 5 then some (ofParts negative mantissa scale)
  else if mantissa + 1 < mantissaLimit then some (ofParts negative (mantissa + 1) scale)
  else if scale = 0 then none
  else some (ofParts negative ((mantissa + 5) / 10) (scale - 1))

/-- Ends a literal at its first digit that does not fit, where `tail` is what follows it. -/
def cutAt (negative : Bool) (st : Scan) (digit : Nat) (tail : List Char) : Option Decimal :=
  if tail.all isTailChar then roundOn negative st.mantissa st.scale digit else none

/-- Reads the digits of a literal, going on from `st`. An underscore right behind a full fraction
cuts it as a zero would. -/
def scan (negative : Bool) (st : Scan) : List Char → Option Decimal
  | [] => if st.seenDigit then some (ofParts negative st.mantissa st.scale) else none
  | c :: rest =>
    match digitValue? c with
    | some d =>
      let mantissa := st.mantissa * 10 + d
      if st.isFull then cutAt negative st d rest
      else if mantissa < mantissaLimit then
        let scale := if st.seenPoint then st.scale + 1 else st.scale
        scan negative { st with mantissa := mantissa, scale := scale, seenDigit := true } rest
      else if st.seenPoint then cutAt negative st d rest
      else none
    | none =>
      if c = '.' ∧ st.seenPoint = false then scan negative { st with seenPoint := true } rest
      else if c = '_' ∧ st.seenDigit = true then
        if st.isFull then cutAt negative st 0 rest else scan negative st rest
      else none

/-- Reads a literal without an exponent. -/
def plainChars? : List Char → Option Decimal
  | '-' :: rest => scan true {} rest
  | '+' :: rest => scan false {} rest
  | cs => scan false {} cs

def plain? (s : String) : Option Decimal := plainChars? s.toList

/-- The decimal with fewer fractional digits, rounded on the first one dropped; it keeps its sign
also where nothing but zeros is left. -/
def rescaleTo (d : Decimal) (scale : Nat) : Decimal :=
  if d.scale ≤ scale then d
  else
    let dropped := d.scale - scale
    let kept := d.mantissa / Nat.pow 10 dropped
    let first := d.mantissa / Nat.pow 10 (dropped - 1) % 10
    { d with mantissa := if 5 ≤ first then kept + 1 else kept, scale := scale }

/-- Moves the point left: the scale grows, and the base is rounded first where it would pass 28. -/
def shiftLeft? (d : Decimal) (power : Nat) : Option Decimal :=
  if maxScale < power then none
  else if maxScale < d.scale + power then
    let base := d.rescaleTo (maxScale - power)
    some { base with scale := maxScale }
  else some { d with scale := d.scale + power }

/-- Moves the point right: the scale shrinks, and past zero the mantissa grows and zeros at the end
of the fraction are dropped. -/
def shiftRight? (d : Decimal) (power : Nat) : Option Decimal :=
  if power ≤ d.scale then some { d with scale := d.scale - power }
  else if maxScale < power then none
  else
    let mantissa := d.mantissa * Nat.pow 10 (power - d.scale)
    if mantissa < mantissaLimit then some (ofParts d.negative mantissa 0) else none

/-- Whether a character introduces an exponent. -/
def isExponentMark (c : Char) : Bool := c == 'e' || c == 'E'

/-- Reads a plain literal, an exponent mark and an unsigned literal with an optional minus. -/
def scientificChars? (cs : List Char) : Option Decimal :=
  match cs.dropWhile (!isExponentMark ·) with
  | [] => none
  | _ :: exponent => do
    let base ← plainChars? (cs.takeWhile (!isExponentMark ·))
    match exponent with
    | '-' :: digits =>
      let power ← unsigned? digits
      if power < wordLimit 32 then base.shiftLeft? power else none
    | digits =>
      let power ← unsigned? digits
      if power < wordLimit 32 then base.shiftRight? power else none

def scientific? (s : String) : Option Decimal := scientificChars? s.toList

/-- Reads a literal with or without an exponent. -/
def ofText? (s : String) : Option Decimal :=
  match plain? s with
  | some d => some d
  | none => scientific? s

end MarketGateway.Decimal
