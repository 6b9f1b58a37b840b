import MarketGateway.Number.Binary64

/-!
# Shortest decimal form of a double

`shortest` gives the decimal with the fewest significant digits that reads back as the value, and
the nearest of those. `positional` writes it without an exponent; `scientific` writes an exponent
with its sign for values of at least `10 ^ 16` or below `10 ^ -5`, and any other value with a point.
-/

namespace MarketGateway.Binary64

/-- Digits as one number and the power of ten that scales them. -/
structure Digits where
  mantissa : Nat
  exponent : Int
  deriving Repr, DecidableEq

/-- Drops zeros at the end of the digits. -/
def Digits.strip : Nat → Digits → Digits
  | 0, d => d
  | fuel + 1, d =>
    if d.mantissa ≠ 0 ∧ d.mantissa % 10 = 0 then strip fuel ⟨d.mantissa / 10, d.exponent + 1⟩ else d

/-- Largest power of ten that is at most `units`, for a positive number of units. -/
def leadingExponent (units : Nat) : Int :=
  ((Nat.toDigits 10 (units * Nat.pow 10 350 / one)).length : Int) - 351

/-- The decimal grid point `c * 10 ^ e` times `4 * one`, over the denominator given by `e`. -/
def scaled (c : Nat) (e : Int) : Nat × Nat :=
  if 0 ≤ e then (c * Nat.pow 10 e.toNat * (4 * one), 1) else (c * (4 * one), Nat.pow 10 (-e).toNat)

/-- Whether `c * 10 ^ e` rounds to `units`. -/
def readsBack (units c : Nat) (e : Int) : Bool :=
  let step := spacing units
  let even := units / step % 2 == 0
  let below := if units = Nat.pow 2 52 * step ∧ 1 < step then step else 2 * step
  let (num, den) := scaled c e
  let low := (4 * units - below) * den
  let high := (4 * units + 2 * step) * den
  if even then low ≤ num && num ≤ high else low < num && num < high

/-- The point of the grid of `10 ^ e` that reads back as `units` and is nearest to it. -/
def gridPoint? (units : Nat) (e : Int) : Option Nat :=
  let (num, den) :=
    if 0 ≤ e then (units, one * Nat.pow 10 e.toNat) else (units * Nat.pow 10 (-e).toNat, one)
  let floor := num / den
  let rest := num % den
  let takeUpper := den < 2 * rest || (2 * rest == den && floor % 2 == 1)
  let lowerFits := readsBack units floor e
  let upperFits := readsBack units (floor + 1) e
  if lowerFits && upperFits then some (if takeUpper then floor + 1 else floor)
  else if lowerFits then some floor
  else if upperFits then some (floor + 1)
  else none

/-- Tries grids of one digit more each time, `fuel` times at most. -/
def search (units : Nat) (lead : Int) : Nat → Nat → Digits
  | 0, n => ⟨units * Nat.pow 10 17 / one, -17 - n⟩
  | fuel + 1, n =>
    let e := lead - n
    match gridPoint? units e with
    | some c => ⟨c, e⟩
    | none => search units lead fuel (n + 1)

/-- The shortest decimal that reads back as a positive number of units. -/
def shortest (units : Nat) : Digits :=
  if units = 0 then ⟨0, 0⟩
  else Digits.strip 400 (search units (leadingExponent units) 17 0)

/-- Zeros in a row. -/
def zeros (n : Nat) : List Char := List.replicate n '0'

/-- Digits without an exponent, and without a point when there is no fraction. -/
def positionalDigits (d : Digits) : List Char :=
  let ds := Nat.toDigits 10 d.mantissa
  let point : Int := ds.length + d.exponent
  if 0 ≤ d.exponent then ds ++ zeros d.exponent.toNat
  else if 0 < point then ds.take point.toNat ++ '.' :: ds.drop point.toNat
  else ['0', '.'] ++ zeros (-point).toNat ++ ds

/-- The value without an exponent. -/
def positional : Binary64 → String
  | nan => "NaN"
  | infinite s => if s then "-inf" else "inf"
  | finite s u => String.ofList ((if s then ['-'] else []) ++ positionalDigits (shortest u))

/-- Digits with an exponent where that is shorter to read; the exponent has a sign and no zeros in
front. -/
def scientificDigits (d : Digits) : List Char :=
  let ds := Nat.toDigits 10 d.mantissa
  let point : Int := ds.length + d.exponent
  let power := (point - 1).natAbs
  let suffix := 'e' :: (if point - 1 < 0 then '-' else '+') :: Nat.toDigits 10 power
  if 0 ≤ d.exponent ∧ point ≤ 16 then positionalDigits d ++ ['.', '0']
  else if -5 < point ∧ point ≤ 16 then positionalDigits d
  else if ds.length = 1 then ds ++ suffix
  else ds.take 1 ++ '.' :: ds.drop 1 ++ suffix

/-- The value as a number of a JSON text; values that are not finite have no such form. -/
def scientific : Binary64 → String
  | nan => "null"
  | infinite _ => "null"
  | finite s u => String.ofList ((if s then ['-'] else []) ++ scientificDigits (shortest u))

end MarketGateway.Binary64
