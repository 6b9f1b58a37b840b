import MarketGateway.Json.Printer

/-!
# Notices to downstream clients

What the gateway answers to a request of a client, as a small object tagged with its type.
-/

namespace MarketGateway

/-- Answer to a request. -/
inductive Notice
  | pong
  | subscribed (symbol : String)
  | unsubscribed (symbol : String)
  | error (message : String)
  deriving Repr, DecidableEq, Inhabited

/-- The notice as a JSON value. -/
def Notice.toJson : Notice → Json
  | pong => .object [("type", .string "pong")]
  | subscribed symbol => .object [("type", .string "subscribed"), ("symbol", .string symbol)]
  | unsubscribed symbol => .object [("type", .string "unsubscribed"), ("symbol", .string symbol)]
  | error message => .object [("type", .string "error"), ("message", .string message)]

end MarketGateway
