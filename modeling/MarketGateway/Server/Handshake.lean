import MarketGateway.Client.Access
import MarketGateway.Room.Key
import MarketGateway.Text.FormEncoding

/-!
# Handshakes of downstream clients

Clients connect to `/ws/price` for prices and to `/ws/orderbook` for order books cut to a depth.
The query is a form with a token and a depth, each at most once; other fields do not matter.
`Handshake.endpoint` refuses a query that cannot be read first, then a client without the token,
then a depth out of range.
-/

namespace MarketGateway

/-- A request to connect. -/
structure Handshake where
  path : String
  query : String
  headers : Headers
  deriving Repr, DecidableEq

/-- What a client is connected to. -/
inductive Endpoint
  | prices
  | books (levels : Nat)
  deriving Repr, DecidableEq, Inhabited

/-- The depth of the rooms behind an endpoint. -/
def Endpoint.levels : Endpoint → Option Nat
  | prices => none
  | books levels => some levels

/-- Why a handshake is refused. -/
inductive Refusal
  | unknownPath
  | malformedQuery
  | unauthorized
  | levelsOutOfRange
  deriving Repr, DecidableEq, Inhabited

/-- Status of the response. -/
def Refusal.status : Refusal → Nat
  | unknownPath => 404
  | malformedQuery => 400
  | unauthorized => 401
  | levelsOutOfRange => 400

/-- What the response says, if there is a wording for it. -/
def Refusal.body : Refusal → Option String
  | unauthorized => some "missing or invalid token"
  | levelsOutOfRange => some ("levels must be between 1 and " ++ Text.natural maxBookLevels)
  | _ => none

/-- The fields of a query. -/
structure ConnectFields where
  token : Option String := none
  levels : Option Nat := none
  deriving Repr, DecidableEq, Inhabited

namespace ConnectFields

/-- Adds one field; there is none after a field that came before and after a depth that is no
number. -/
def add? (fields : ConnectFields) (name value : String) : Option ConnectFields :=
  if name = "token" then
    if fields.token.isSome then none else some { fields with token := some value }
  else if name = "levels" then
    if fields.levels.isSome then none
    else (Text.natural? (Text.wordLimit 64) value).map fun n => { fields with levels := some n }
  else some fields

/-- Reads a query. -/
def ofQuery? (query : String) : Option ConnectFields :=
  (Text.FormEncoding.decode query).foldlM (fun fields (name, value) => fields.add? name value) {}

end ConnectFields

namespace Handshake

/-- A handshake for a path with the query behind its first question mark. -/
def ofTarget (target : String) (headers : Headers) : Handshake where
  path := String.ofList (target.toList.takeWhile (· != '?'))
  query := String.ofList ((target.toList.dropWhile (· != '?')).drop 1)
  headers := headers

/-- The order book endpoint of a depth. -/
def books (levels : Nat) : Except Refusal Endpoint :=
  if levels = 0 ∨ maxBookLevels < levels then .error .levelsOutOfRange else .ok (.books levels)

/-- What a client gets connected to. -/
def endpoint (handshake : Handshake) (token : AccessToken) : Except Refusal Endpoint :=
  if handshake.path ≠ "/ws/price" ∧ handshake.path ≠ "/ws/orderbook" then .error .unknownPath
  else
    match ConnectFields.ofQuery? handshake.query with
    | none => .error .malformedQuery
    | some fields =>
      if token.authorizes fields.token handshake.headers then
        if handshake.path = "/ws/price" then .ok .prices
        else books (fields.levels.getD defaultBookLevels)
      else .error .unauthorized

end Handshake

end MarketGateway
