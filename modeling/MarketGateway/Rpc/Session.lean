import MarketGateway.Json.Parser
import MarketGateway.Rpc.Error
import MarketGateway.Rpc.Frame

/-!
# Pending requests

A session of the trading socket keeps the requests that wait for a response under their ids. Each
waiting caller has a ticket of its own: `Session.register` enters a request and hands out the
ticket, `Session.dispatch` takes an inbound frame and answers the request with its id,
`Session.abandon` removes the request of a caller that stopped waiting, and `Session.close` fails
all of them and refuses new ones. Answers lie ready under their tickets until they are taken. Each
step reports the number of pending requests when it was set.
-/

namespace MarketGateway.Rpc

/-- Names one waiting caller. -/
abbrev Ticket := Nat

/-- The requests of one connection. -/
structure Session where
  /-- Callers that wait, by the ids of their requests, each id once. -/
  pending : List (String × Ticket) := []
  /-- Answers that were not taken yet. -/
  answers : List (Ticket × Reply) := []
  nextTicket : Ticket := 0
  closed : Bool := false
  deriving Inhabited

/-- What a caller finds. -/
inductive Delivery
  | waiting
  | answered (reply : Reply)
  /-- No answer will come, or it was taken. -/
  | gone
  deriving Inhabited

namespace Session

/-- The pending requests without one id. -/
def without (pending : List (String × Ticket)) (id : String) : List (String × Ticket) :=
  pending.filter (·.1 != id)

/-- Enters a request; a request that has the id already is displaced. -/
def register (session : Session) (id : String) :
    Except RpcError Ticket × Session × List Metric :=
  if session.closed then (.error .connectionClosed, session, [])
  else
    let pending := without session.pending id ++ [(id, session.nextTicket)]
    (.ok session.nextTicket,
      { session with pending := pending, nextTicket := session.nextTicket + 1 },
      [.rpcPending pending.length])

/-- Answers the request with an id, if one is pending. -/
def resolve (session : Session) (id : String) (reply : Reply) : Session × List Metric :=
  let pending := without session.pending id
  let answers :=
    match session.pending.lookup id with
    | some ticket => session.answers ++ [(ticket, reply)]
    | none => session.answers
  ({ session with pending := pending, answers := answers }, [.rpcPending pending.length])

/-- Removes the request with an id, whose caller stopped waiting. -/
def abandon (session : Session) (id : String) : Session × List Metric :=
  let pending := without session.pending id
  if (session.pending.lookup id).isSome then
    ({ session with pending := pending }, [.rpcPending pending.length])
  else (session, [])

/-- Fails every pending request and refuses new ones; gives the number of those that failed. -/
def close (session : Session) : Nat × Session × List Metric :=
  let failed := session.pending.map fun (_, ticket) => (ticket, Except.error .connectionClosed)
  (session.pending.length,
    { session with pending := [], answers := session.answers ++ failed, closed := true },
    [.rpcPending 0])

/-- The answer in a response frame: an error if there is one, else the result, else `null`. -/
def replyOf (frame : ResponseFrame) : Reply :=
  match frame.error, frame.result with
  | some error, _ => .error (.exchange error)
  | none, some result => .ok result
  | none, none => .ok .null

/-- Takes one inbound frame; one that is no response or has no id does nothing. -/
def dispatch (session : Session) (text : String) : Session × List Metric :=
  match Json.readAll ResponseFrame.form.read text with
  | .error _ => (session, [])
  | .ok frame =>
    match frame.id with
    | none => (session, [])
    | some id => session.resolve id (replyOf frame)

/-- What the caller with a ticket finds. -/
def delivery (session : Session) (ticket : Ticket) : Delivery :=
  if session.pending.any (·.2 == ticket) then .waiting
  else
    match session.answers.lookup ticket with
    | some reply => .answered reply
    | none => .gone

/-- Takes the answer under a ticket out. -/
def take (session : Session) (ticket : Ticket) : Delivery × Session :=
  (session.delivery ticket,
    { session with answers := session.answers.filter (·.1 != ticket) })

end Session

end MarketGateway.Rpc
