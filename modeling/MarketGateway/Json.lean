import MarketGateway.Number.Binary64

/-!
# JSON values

`Json` is a JSON value with its numbers kept as whole numbers of 64 bits or as doubles. The members
of an object are listed in the order in which they are written; `Json.insert` keeps a list of
members sorted by key with one value for each key, as reading does.
-/

namespace MarketGateway

/-- A number as it is kept after reading. -/
inductive Json.Number
  | whole (n : Int)
  | real (x : Binary64)
  deriving Repr, DecidableEq, Inhabited

/-- A JSON value. -/
inductive Json
  | null
  | bool (b : Bool)
  | number (n : Json.Number)
  | string (s : String)
  | array (items : List Json)
  | object (members : List (String × Json))
  deriving Inhabited

namespace Json

/-- The value of the first member with a key. -/
def lookup (members : List (String × Json)) (key : String) : Option Json :=
  (members.find? (·.1 == key)).map (·.2)

/-- The value under a key of an object. -/
def get? (value : Json) (key : String) : Option Json :=
  match value with
  | object members => lookup members key
  | _ => none

/-- The text of a string value. -/
def text? : Json → Option String
  | string s => some s
  | _ => none

def isObject : Json → Bool
  | object _ => true
  | _ => false

/-- Puts a member at its place among members sorted by key, replacing one with the same key. -/
def insert (key : String) (value : Json) : List (String × Json) → List (String × Json)
  | [] => [(key, value)]
  | (k, v) :: rest =>
    if key = k then (key, value) :: rest
    else if key < k then (key, value) :: (k, v) :: rest
    else (k, v) :: insert key value rest

/-- The number value of a whole number. -/
def int (n : Int) : Json := number (.whole n)

def nat (n : Nat) : Json := number (.whole n)

/-- An optional value, with `null` for none. -/
def optional (value : Option Json) : Json := value.getD null

end Json

end MarketGateway
