import MarketGateway.Text.Printable

/-!
# Quoted text

`quoted s` writes a text between double quotes so that every character can be seen: the quote and
the backslash are escaped, tab, line feed, carriage return and NUL have short escapes, and a
character that does not print or that joins its neighbour is written by its code point.
-/

namespace MarketGateway.Text

/-- One character as it stands inside quotes. -/
def quotedChar (c : Char) : List Char :=
  if c = '"' then ['\\', '"']
  else if c = '\\' then ['\\', '\\']
  else if c = '\n' then ['\\', 'n']
  else if c = '\r' then ['\\', 'r']
  else if c = '\t' then ['\\', 't']
  else if c.toNat = 0 then ['\\', '0']
  else if extendsGrapheme c || !isPrintable c then
    ['\\', 'u', '\x7b'] ++ Nat.toDigits 16 c.toNat ++ ['\x7d']
  else [c]

/-- The text between quotes, with everything hard to see escaped. -/
def quoted (s : String) : String :=
  String.ofList ('"' :: s.toList.flatMap quotedChar ++ ['"'])

end MarketGateway.Text
