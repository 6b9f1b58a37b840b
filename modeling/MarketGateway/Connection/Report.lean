import MarketGateway.Connection
import MarketGateway.Json

/-!
# Reports of connections

Frames as JSON values, read and written, and what can be seen of a connection.
-/

namespace MarketGateway

open Json

namespace Frame

def bytesToJson (bytes : List UInt8) : Json := array (bytes.map fun b => nat b.toNat)

/-- Bytes as a list of whole numbers. -/
def bytesOfJson? : Json → Option (List UInt8)
  | array items => items.mapM fun
    | number (.whole n) => if 0 ≤ n ∧ n < 256 then some (UInt8.ofNat n.toNat) else none
    | _ => none
  | _ => none

def toJson : Frame → Json
  | text content => object [("text", string content)]
  | binary bytes => object [("binary", bytesToJson bytes)]
  | ping data => object [("ping", bytesToJson data)]
  | pong data => object [("pong", bytesToJson data)]
  | close => string "close"

/-- Reads what `toJson` writes. -/
def ofJson? : Json → Option Frame
  | object [("text", string content)] => some (text content)
  | object [("binary", bytes)] => (bytesOfJson? bytes).map binary
  | object [("ping", data)] => (bytesOfJson? data).map ping
  | object [("pong", data)] => (bytesOfJson? data).map pong
  | string "close" => some close
  | _ => none

end Frame

/-- Counters of a connection, whether its writing side has ended and whether it was stopped. -/
def Connection.report (connection : Connection) : List (String × Json) :=
  [("frames", nat connection.frames), ("pings", nat connection.pings),
    ("closed", bool connection.outbound.closed), ("stopped", bool connection.cancelled)]

end MarketGateway
