/-!
# Decimals

A decimal is a sign, a mantissa of at most 96 bits and a scale of at most 28 fractional digits; the
scale is kept, so `1.5` and `1.50` print differently and are equal in value (`Decimal.sameValue`).
Main operations: `Decimal.compare` orders by value, `Decimal.normalize` drops zeros at the end of
the fraction, `Decimal.toText` writes every fractional digit.
-/

namespace MarketGateway

/-- First mantissa that does not fit. -/
def Decimal.mantissaLimit : Nat := Nat.pow 2 96

/-- Largest number of fractional digits. -/
def Decimal.maxScale : Nat := 28

/-- The value `mantissa / 10 ^ scale` with a sign; a negative zero prints its sign and has the
value zero. -/
structure Decimal where
  negative : Bool
  mantissa : Nat
  scale : Nat
  deriving Repr, DecidableEq, Inhabited

namespace Decimal

/-- The decimal of the given parts, without a sign on zero. -/
def ofParts (negative : Bool) (mantissa scale : Nat) : Decimal :=
  ⟨negative && mantissa != 0, mantissa, scale⟩

def zero : Decimal := ⟨false, 0, 0⟩

/-- The decimal of an integer. -/
def ofInt (n : Int) : Decimal := ofParts (n < 0) n.natAbs 0

/-- The mantissa with its sign. -/
def signed (d : Decimal) : Int := if d.negative then -d.mantissa else d.mantissa

def isZero (d : Decimal) : Bool := d.mantissa == 0

/-- Whether the value is above zero. -/
def isPositive (d : Decimal) : Bool := !d.negative && d.mantissa != 0

/-- Order by value: both sides are brought to the product of their scales. -/
def compare (a b : Decimal) : Ordering :=
  Ord.compare (a.signed * Nat.pow 10 b.scale) (b.signed * Nat.pow 10 a.scale)

/-- Whether two decimals have the same value. -/
def sameValue (a b : Decimal) : Bool :=
  a.signed * Nat.pow 10 b.scale == b.signed * Nat.pow 10 a.scale

/-- Drops one zero after another from the end of the fraction. -/
def dropZeros : Nat → Nat → Nat × Nat
  | mantissa, 0 => (mantissa, 0)
  | mantissa, scale + 1 =>
    if mantissa % 10 = 0 then dropZeros (mantissa / 10) scale else (mantissa, scale + 1)

/-- The same value with the smallest scale. -/
def normalize (d : Decimal) : Decimal :=
  if d.mantissa = 0 then zero
  else
    let (mantissa, scale) := dropZeros d.mantissa d.scale
    ⟨d.negative, mantissa, scale⟩

/-- Digits of the mantissa with at least one digit before the point. -/
def paddedDigits (d : Decimal) : List Char :=
  let ds := Nat.toDigits 10 d.mantissa
  List.replicate (d.scale + 1 - ds.length) '0' ++ ds

/-- All digits, with a point in front of the last `scale` of them. -/
def toChars (d : Decimal) : List Char :=
  let ds := d.paddedDigits
  let whole := ds.take (ds.length - d.scale)
  (if d.negative then ['-'] else []) ++
    (if d.scale = 0 then whole else whole ++ '.' :: ds.drop (ds.length - d.scale))

/-- The decimal as text. -/
def toText (d : Decimal) : String := String.ofList d.toChars

end Decimal

end MarketGateway
