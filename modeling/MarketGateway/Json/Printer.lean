import MarketGateway.Json
import MarketGateway.Number.Binary64.Shortest
import MarketGateway.Text.Numeral

/-!
# Writing JSON

`Json.render` writes a value without blanks, members in the order in which they are listed.
-/

namespace MarketGateway.Json

/-- Lower-case hexadecimal digit of a value below sixteen. -/
def hexDigit (n : Nat) : Char :=
  if n < 10 then Char.ofNat (0x30 + n) else Char.ofNat (0x61 + (n - 10))

/-- One character as it stands inside a string: the quote, the backslash and control characters
are escaped. -/
def escapedChar (c : Char) : List Char :=
  if c = '"' then ['\\', '"']
  else if c = '\\' then ['\\', '\\']
  else if c.toNat = 8 then ['\\', 'b']
  else if c.toNat = 9 then ['\\', 't']
  else if c.toNat = 10 then ['\\', 'n']
  else if c.toNat = 12 then ['\\', 'f']
  else if c.toNat = 13 then ['\\', 'r']
  else if c.toNat < 32 then
    ['\\', 'u', '0', '0', hexDigit (c.toNat / 16), hexDigit (c.toNat % 16)]
  else [c]

/-- A text between quotes. -/
def renderString (s : String) : List Char :=
  '"' :: s.toList.flatMap escapedChar ++ ['"']

/-- A number in decimal. -/
def renderNumber : Number → List Char
  | .whole n => (Text.integer n).toList
  | .real x => x.scientific.toList

mutual

/-- The characters of a value. -/
def renderChars : Json → List Char
  | null => ['n', 'u', 'l', 'l']
  | bool b => if b then ['t', 'r', 'u', 'e'] else ['f', 'a', 'l', 's', 'e']
  | number n => renderNumber n
  | string s => renderString s
  | array items => '[' :: renderItems items
  | object members => '\x7b' :: renderMembers members

/-- Items up to the closing bracket. -/
def renderItems : List Json → List Char
  | [] => [']']
  | [v] => renderChars v ++ [']']
  | v :: w :: rest => renderChars v ++ ',' :: renderItems (w :: rest)

/-- Members up to the closing brace. -/
def renderMembers : List (String × Json) → List Char
  | [] => ['\x7d']
  | [(k, v)] => renderString k ++ ':' :: renderChars v ++ ['\x7d']
  | (k, v) :: m :: rest =>
    renderString k ++ ':' :: renderChars v ++ ',' :: renderMembers (m :: rest)

end

/-- The text of a value. -/
def render (value : Json) : String := String.ofList (renderChars value)

end MarketGateway.Json
