/-!
# Double-precision numbers

`Binary64` is the set of IEEE 754 double-precision values with one NaN. Every finite value is a
whole number of the smallest positive one, `2 ^ -1074`, so a finite value is a sign and that
number of units. Every operation works out the exact result as a quotient of natural numbers of
units and then rounds once, to the nearest representable value with ties to the even significand
(`roundUnits`); a result beyond the largest finite value is an infinity.
-/

namespace MarketGateway

/-- A double-precision value: `units` counts multiples of `2 ^ -1074`. -/
inductive Binary64
  | nan
  | infinite (negative : Bool)
  | finite (negative : Bool) (units : Nat)
  deriving Repr, DecidableEq, Inhabited

namespace Binary64

/-- Number of units in one. -/
def one : Nat := Nat.pow 2 1074

/-- First number of units past the finite values. -/
def overflow : Nat := Nat.pow 2 (1024 + 1074)

/-- The multiple of `step` nearest to `num / den`, the even multiple when two are equally near. -/
def roundToMultiple (num den step : Nat) : Nat :=
  let whole := num / (den * step)
  let rest := num % (den * step)
  if 2 * rest < den * step then whole * step
  else if den * step < 2 * rest then (whole + 1) * step
  else (whole + whole % 2) * step

/-- Distance between neighbouring values around a number of units: a significand has 53 bits. -/
def spacing (units : Nat) : Nat := Nat.pow 2 (Nat.log2 units + 1 - 53)

/-- The representable number of units nearest to `num / den`. -/
def roundUnits (num den : Nat) : Nat := roundToMultiple num den (spacing (num / den))

/-- The value with the given sign and the magnitude nearest to `num / den` units. -/
def ofUnits (negative : Bool) (num den : Nat) : Binary64 :=
  let units := roundUnits num den
  if overflow ≤ units then infinite negative else finite negative units

/-- The value nearest to a quotient of natural numbers. -/
def ofQuotient (negative : Bool) (num den : Nat) : Binary64 :=
  if den = 0 then (if num = 0 then nan else infinite negative)
  else ofUnits negative (num * one) den

/-- The value nearest to a natural number. -/
def ofNat (n : Nat) : Binary64 := ofUnits false (n * one) 1

def zero : Binary64 := finite false 0

/-- The value with the opposite sign. -/
def neg : Binary64 → Binary64
  | nan => nan
  | infinite s => infinite (!s)
  | finite s u => finite (!s) u

/-- Whether the value is a number that is not infinite. -/
def isFinite : Binary64 → Bool
  | finite _ _ => true
  | nan | infinite _ => false

/-- Whether the sign bit is set. -/
def isNegative : Binary64 → Bool
  | nan => false
  | infinite s => s
  | finite s _ => s

/-- Units with their sign, for finite values. -/
def signedUnits (negative : Bool) (units : Nat) : Int := if negative then -units else units

def mul : Binary64 → Binary64 → Binary64
  | nan, _ => nan
  | _, nan => nan
  | infinite s, infinite t => infinite (s != t)
  | infinite s, finite t u => if u = 0 then nan else infinite (s != t)
  | finite s u, infinite t => if u = 0 then nan else infinite (s != t)
  | finite s u, finite t v => ofUnits (s != t) (u * v) one

def div : Binary64 → Binary64 → Binary64
  | nan, _ => nan
  | _, nan => nan
  | infinite _, infinite _ => nan
  | infinite s, finite t _ => infinite (s != t)
  | finite s _, infinite t => finite (s != t) 0
  | finite s u, finite t v =>
    if v = 0 then (if u = 0 then nan else infinite (s != t)) else ofUnits (s != t) (u * one) v

/-- Sum; two zeros of different sign give the positive one. -/
def add : Binary64 → Binary64 → Binary64
  | nan, _ => nan
  | _, nan => nan
  | infinite s, infinite t => if s = t then infinite s else nan
  | infinite s, finite _ _ => infinite s
  | finite _ _, infinite t => infinite t
  | finite s u, finite t v =>
    let sum := signedUnits s u + signedUnits t v
    if sum = 0 then finite (s && t) 0 else ofUnits (sum < 0) sum.natAbs 1

/-- Numerical order; false when either side is NaN. -/
def lt : Binary64 → Binary64 → Bool
  | nan, _ => false
  | _, nan => false
  | infinite s, infinite t => s && !t
  | infinite s, finite _ _ => s
  | finite _ _, infinite t => !t
  | finite s u, finite t v => signedUnits s u < signedUnits t v

/-- Whether the value is at most zero; false for NaN. -/
def nonPositive : Binary64 → Bool
  | nan => false
  | infinite s => s
  | finite s u => s || u == 0

/-- The nearest whole number, a half going away from zero. -/
def roundHalfAway : Binary64 → Binary64
  | finite s u => finite s ((2 * u + one) / (2 * one) * one)
  | x => x

/-- The whole part as a natural number: zero for NaN and negative values, `limit` for anything at
or above it. -/
def toNat (limit : Nat) : Binary64 → Nat
  | nan => 0
  | infinite s => if s then 0 else limit
  | finite s u => if s then 0 else min (u / one) limit

/-- The value `m * 10 ^ e`, rounded once. Exponents far outside the range are cut short. -/
def ofDecimal (negative : Bool) (m : Nat) (e : Int) : Binary64 :=
  if m = 0 then finite negative 0
  else
    let digits : Int := (Nat.toDigits 10 m).length
    if 400 < digits + e then infinite negative
    else if digits + e < -400 then finite negative 0
    else if 0 ≤ e then ofQuotient negative (m * Nat.pow 10 e.toNat) 1
    else ofQuotient negative m (Nat.pow 10 (-e).toNat)

/-- The 64 bits of the encoding; NaN is the positive quiet one. -/
def toBits : Binary64 → Nat
  | nan => 0x7ff8000000000000
  | infinite s => 0x7ff0000000000000 + (if s then Nat.pow 2 63 else 0)
  | finite s u =>
    let shift := Nat.log2 u + 1 - 53
    let bits := if u < Nat.pow 2 53 then u else shift * Nat.pow 2 52 + u / Nat.pow 2 shift
    bits + (if s then Nat.pow 2 63 else 0)

end Binary64

end MarketGateway
