/-!
# Letters without regard to case

Case maps of ASCII letters; every other character stands for itself.
-/

namespace MarketGateway.Text

/-- The text with `a` to `z` made capital. -/
def upper (s : String) : String := String.ofList (s.toList.map Char.toUpper)

/-- The text with `A` to `Z` made small. -/
def lower (s : String) : String := String.ofList (s.toList.map Char.toLower)

/-- Whether two texts agree up to the case of ASCII letters. -/
def equalIgnoringCase (a b : String) : Bool := lower a == lower b

end MarketGateway.Text
