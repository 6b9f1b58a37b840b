import MarketGateway.Text.Numeral

/-!
# Durations

A duration is a number of nanoseconds. `Duration.toText` writes it with the largest unit whose
whole part is not zero and drops zeros at the end of the fraction: `1.5s`, `100ms`, `1µs`, `0ns`.
-/

namespace MarketGateway

/-- A length of time in nanoseconds; also an instant, counted from the start of a run. -/
abbrev Duration := Nat

namespace Duration

def ofMicros (n : Nat) : Duration := n * 1000

def ofMillis (n : Nat) : Duration := n * 1000000

def ofSecs (n : Nat) : Duration := n * 1000000000

/-- Whole milliseconds. -/
def millis (d : Duration) : Nat := d / 1000000

/-- Digits of a fraction of `unit`, without zeros at the end. -/
def fractionDigits (fraction unit : Nat) : List Char :=
  let ds := (Nat.toDigits 10 (unit + fraction)).drop 1
  (ds.reverse.dropWhile (· == '0')).reverse

/-- The duration counted in a unit of so many nanoseconds. -/
def inUnit (d unit : Nat) (name : String) : String :=
  let fraction := fractionDigits (d % unit) unit
  Text.natural (d / unit) ++
    String.ofList (if fraction.isEmpty then [] else '.' :: fraction) ++ name

/-- The duration as text. -/
def toText (d : Duration) : String :=
  if 1000000000 ≤ d then inUnit d 1000000000 "s"
  else if 1000000 ≤ d then inUnit d 1000000 "ms"
  else if 1000 ≤ d then inUnit d 1000 "µs"
  else inUnit d 1 "ns"

end Duration

end MarketGateway
