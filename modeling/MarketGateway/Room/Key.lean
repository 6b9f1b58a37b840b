import MarketGateway.Failure
import MarketGateway.Text.Blank
import MarketGateway.Text.Letters
import MarketGateway.Text.Numeral
import MarketGateway.Text.Quoted

/-!
# Room keys

A room is named by a symbol, for its price stream, or by a symbol and a depth, for its order book
cut to that many levels. Symbols are 1 to 20 ASCII letters and digits, kept in capitals; blanks
around them and their case do not matter. Depths lie between 1 and 1000. `RoomKey.parse` reads
`SYMBOL` or `SYMBOL:levels`, and `RoomKey.toText` writes a key that way.
-/

namespace MarketGateway

open Text

/-- Why a request from a client is refused. -/
inductive RequestError
  | invalidSymbol (raw : String)
  | invalidLevels (levels : Nat)
  | invalidKey (raw : String)
  | malformed
  deriving Repr, DecidableEq, Inhabited

/-- Largest depth of a room. -/
def maxBookLevels : Nat := 1000

/-- Depth of a room when a client does not ask for one. -/
def defaultBookLevels : Nat := 20

/-- Longest symbol. -/
def maxSymbolLength : Nat := 20

/-- The error as text. The fault in a malformed request is not told apart. -/
def RequestError.message : RequestError → String
  | invalidSymbol raw => "invalid symbol: " ++ quoted raw
  | invalidLevels levels => "invalid depth " ++ natural levels ++ ", expected 1..=1000"
  | invalidKey raw => "invalid room key: " ++ quoted raw
  | malformed => "malformed client request: <json>"

def RequestError.kind : RequestError → String
  | invalidSymbol _ => "InvalidSymbol"
  | invalidLevels _ => "InvalidLevels"
  | invalidKey _ => "InvalidKey"
  | malformed => "MalformedRequest"

instance : Failure RequestError := ⟨RequestError.kind, RequestError.message⟩

/-- Whether the characters make up a symbol. -/
def isSymbol (cs : List Char) : Bool :=
  cs != [] && cs.length ≤ maxSymbolLength && cs.all Char.isAlphanum

/-- The symbol in capitals without blanks around it. -/
def normalizeSymbol (raw : String) : Except RequestError String :=
  let cs := trimChars raw.toList
  if isSymbol cs then .ok (String.ofList (cs.map Char.toUpper)) else .error (.invalidSymbol raw)

/-- Names one room. -/
structure RoomKey where
  symbol : String
  levels : Option Nat
  deriving Repr, DecidableEq, Inhabited

namespace RoomKey

/-- The price room of a symbol. -/
def price (symbol : String) : Except RequestError RoomKey := do
  return ⟨← normalizeSymbol symbol, none⟩

/-- The order book room of a symbol with a depth; a bad depth is reported before a bad symbol. -/
def book (symbol : String) (levels : Nat) : Except RequestError RoomKey :=
  if levels = 0 ∨ maxBookLevels < levels then .error (.invalidLevels levels)
  else do return ⟨← normalizeSymbol symbol, some levels⟩

/-- The two parts around the first colon. -/
def splitColon : List Char → Option (List Char × List Char)
  | [] => none
  | c :: rest =>
    if c = ':' then some ([], rest)
    else (splitColon rest).map fun (a, b) => (c :: a, b)

/-- Reads `SYMBOL` or `SYMBOL:levels`. -/
def parse (raw : String) : Except RequestError RoomKey :=
  match splitColon raw.toList with
  | none => price raw
  | some (symbol, levels) =>
    match natural? (wordLimit 64) (String.ofList levels) with
    | none => .error (.invalidKey raw)
    | some levels => book (String.ofList symbol) levels

/-- The key as text. -/
def toText (key : RoomKey) : String :=
  match key.levels with
  | some levels => key.symbol ++ ":" ++ natural levels
  | none => key.symbol

/-- Order by symbol, the price room of a symbol before its order book rooms, and those by depth. -/
def before (a b : RoomKey) : Bool :=
  if a.symbol = b.symbol then
    match a.levels, b.levels with
    | none, none => true
    | none, some _ => true
    | some _, none => false
    | some m, some n => m ≤ n
  else a.symbol < b.symbol

end RoomKey

end MarketGateway
