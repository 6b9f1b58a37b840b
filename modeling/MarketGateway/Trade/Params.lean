import MarketGateway.Json
import MarketGateway.Number.Decimal
import MarketGateway.Text.FormEncoding
import MarketGateway.Text.Numeral

/-!
# Request parameters

Parameters are named, typed values in the order in which they were first set. A zero, an empty text
and a false flag count as absent: they are neither signed nor sent. `Params.signable` lists the
present parameters other than the signature by name, `Params.canonicalQuery` is their form-encoded
line, and `Params.toJson` is the object that is sent over a socket.
-/

namespace MarketGateway.Trade

/-- A typed value. -/
inductive ParamValue
  | text (s : String)
  | int (n : Int64)
  | uint (n : UInt64)
  | decimal (d : Decimal)
  | flag (b : Bool)
  deriving Repr, DecidableEq, Inhabited

namespace ParamValue

/-- The value as text, or nothing when it is zero or empty. -/
def render : ParamValue → Option String
  | text s => if s = "" then none else some s
  | int n => if n = 0 then none else some (Text.integer n.toInt)
  | uint n => if n = 0 then none else some (Text.natural n.toNat)
  | decimal d => if d.isZero then none else some d.normalize.toText
  | flag b => if b then some "true" else none

/-- The value in an object, given its text: whole numbers stay numbers. -/
def toJson (value : ParamValue) (rendered : String) : Json :=
  match value with
  | int n => .int n.toInt
  | uint n => .nat n.toNat
  | text _ | decimal _ | flag _ => .string rendered

/-- An optional value; none is an empty text. -/
def optional {α : Type} (make : α → ParamValue) (value : Option α) : ParamValue :=
  match value with
  | some a => make a
  | none => text ""

end ParamValue

/-- Name of the parameter that holds the signature. -/
def signatureName : String := "signature"

/-- A parameter as it is rendered: its name, its text and whether it is sent. -/
structure ParamEntry where
  key : String
  value : String
  present : Bool
  deriving Repr, DecidableEq

/-- Parameters in the order in which they were first set. -/
structure Params where
  entries : List (String × ParamValue) := []
  deriving Repr, DecidableEq, Inhabited

namespace Params

/-- Sets a value in a list of entries, in place of an older one of the same name. -/
def setEntry (key : String) (value : ParamValue) :
    List (String × ParamValue) → List (String × ParamValue)
  | [] => [(key, value)]
  | (k, v) :: rest => if k = key then (k, value) :: rest else (k, v) :: setEntry key value rest

/-- Sets a parameter. -/
def set (params : Params) (key : String) (value : ParamValue) : Params :=
  ⟨setEntry key value params.entries⟩

/-- The value of a parameter. -/
def get? (params : Params) (key : String) : Option ParamValue :=
  (params.entries.find? (·.1 == key)).map (·.2)

/-- All parameters as they are rendered. -/
def flatten (params : Params) : List ParamEntry :=
  params.entries.map fun (key, value) =>
    ⟨key, value.render.getD "", value.render.isSome⟩

/-- Puts a pair at its place among pairs sorted by name, behind those of the same name. -/
def insertPair (pair : String × String) : List (String × String) → List (String × String)
  | [] => [pair]
  | p :: rest => if pair.1 < p.1 then pair :: p :: rest else p :: insertPair pair rest

/-- Pairs sorted by name; pairs of one name keep their order. -/
def sortPairs (pairs : List (String × String)) : List (String × String) :=
  pairs.foldl (fun sorted pair => insertPair pair sorted) []

/-- The present parameters other than the signature, by name. -/
def signable (params : Params) : List (String × String) :=
  sortPairs ((params.flatten.filter fun e => e.present && e.key != signatureName).map
    fun e => (e.key, e.value))

/-- The line that is signed. -/
def canonicalQuery (params : Params) : String := Text.FormEncoding.encode params.signable

/-- The object that is sent over a socket. -/
def toJson (params : Params) : Json :=
  .object (params.entries.foldl
    (fun members (key, value) =>
      match value.render with
      | some rendered => Json.insert key (value.toJson rendered) members
      | none => members)
    [])

end Params

end MarketGateway.Trade
