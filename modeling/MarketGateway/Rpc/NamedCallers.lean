import MarketGateway.Rpc.Session

/-!
# Callers with names

A session together with its callers, each under a name. A caller stays in the table until it is
answered or gives up; a caller that enters another request gives up the one before, after the new
one is entered.
-/

namespace MarketGateway.Rpc

/-- A caller that entered a request. -/
structure Caller where
  name : String
  requestId : String
  ticket : Ticket
  /-- Whether the caller has not given up. -/
  waits : Bool := true
  deriving Repr, DecidableEq, Inhabited

/-- A session and its callers. -/
structure NamedCallers where
  session : Session := {}
  callers : List Caller := []
  /-- Metric events, oldest first. -/
  metrics : List Metric := []

namespace NamedCallers

/-- Puts the session back after a step. -/
def after (named : NamedCallers) (session : Session) (metrics : List Metric) : NamedCallers :=
  { named with session := session, metrics := named.metrics ++ metrics }

/-- Gives up the request of a caller; the flag says whether the caller had not done so before. -/
def giveUp (named : NamedCallers) (name : String) : Bool × NamedCallers :=
  match named.callers.find? fun caller => caller.name == name && caller.waits with
  | none => (false, named)
  | some caller =>
    let (session, metrics) := named.session.abandon caller.requestId
    (true,
      { named.after session metrics with
        callers := named.callers.map fun caller =>
          if caller.name = name then { caller with waits := false } else caller })

/-- Enters a request of a caller. -/
def register (named : NamedCallers) (name requestId : String) : Option RpcError × NamedCallers :=
  match named.session.register requestId with
  | (.error error, session, metrics) => (some error, named.after session metrics)
  | (.ok ticket, session, metrics) =>
    let named := ((named.after session metrics).giveUp name).2
    (none,
      { named with
        callers := named.callers.filter (·.name != name) ++ [{ name, requestId, ticket }] })

/-- Takes an inbound frame. -/
def dispatch (named : NamedCallers) (text : String) : NamedCallers :=
  let (session, metrics) := named.session.dispatch text
  named.after session metrics

/-- Closes the session; gives the number of requests that failed. -/
def close (named : NamedCallers) : Nat × NamedCallers :=
  let (failed, session, metrics) := named.session.close
  (failed, named.after session metrics)

/-- What a caller finds, if it is known. -/
def poll (named : NamedCallers) (name : String) : Option Delivery × NamedCallers :=
  match named.callers.find? (·.name == name) with
  | none => (none, named)
  | some caller =>
    let (delivery, session) := named.session.take caller.ticket
    (some delivery, named.after session [])

/-- Every caller gives up, in the order in which they came. -/
def giveUpAll (named : NamedCallers) : NamedCallers :=
  (named.callers.map (·.name)).foldl (fun named name => (named.giveUp name).2) named

end NamedCallers

end MarketGateway.Rpc
