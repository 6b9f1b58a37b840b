import MarketGateway.Proofs.Client.Guest
import MarketGateway.Proofs.Hub.Seats

/-!
# Clients of a hub

A `Lobby` is a hub with its clients. Each of them is a guest that makes its calls one after another,
and a call is an operation of the hub that takes its steps under locks one by one. Between two of
them the other clients, the writers that empty the mailboxes, payloads, feeds and timers take
theirs. A client gets a number that none had before, and its mailbox bears that number.

`Lobby.step` lets a registry that stands before the hub refuse a call to join. The hub itself
refuses none, since nobody shuts it down.
-/

namespace MarketGateway

variable {π : Type}

/-- The operation that answers a call of a client. -/
def RoomCall.operation (client : ClientId) : RoomCall → Hub.Operation π
  | join key => .subscribe key client client .looking
  | leave key => .unsubscribe key client

namespace Hub

/-- What the last step of an operation answers to a call to join. -/
def Operation.refusal (hub : Hub π) : Operation π → Option JoinError
  | subscribe key client mailbox progress =>
    match (progress.step key client mailbox hub).1 with
    | .done outcome => outcome
    | _ => none
  | _ => none

/-- Whether a move is neither a call of a client nor the doing of a writer. -/
def Traffic.Move.isApart : Traffic.Move π → Bool
  | .request (.subscribe _ _ _) | .request (.unsubscribe _ _) | .mailboxes _ => false
  | _ => true

/-- A client with its call under way. -/
structure Caller (π : Type) where
  guest : Guest
  operation : Option (Operation π) := none

namespace Caller

/-- A client that begins its next call. -/
def next (client : ClientId) (guest : Guest) : Caller π :=
  ⟨guest, guest.pending.head?.map (RoomCall.operation client)⟩

/-- Something happens to a client that has no call under way. -/
def meet (client : ClientId) (caller : Caller π) (event : Guest.Event) : Caller π :=
  if caller.guest.listens then next client (caller.guest.step client event) else caller

/-- The call under way is answered. -/
def answer (client : ClientId) (caller : Caller π) (refusal : Option JoinError) : Caller π :=
  next client (caller.guest.step client (.answer refusal))

/-- The call under way takes a step in the hub. -/
def go (client : ClientId) (caller : Caller π) (operation : Operation π) (hub : Hub π) : Caller π :=
  match (operation.step hub).1 with
  | some rest => { caller with operation := some rest }
  | none => caller.answer client (operation.refusal hub)

end Caller

/-- A hub with its clients. The operations of the traffic are those of nobody among them. -/
structure Lobby (π : Type) where
  traffic : Traffic π
  callers : List (Caller π) := []

namespace Lobby

abbrev hub (lobby : Lobby π) : Hub π := lobby.traffic.hub

/-- What happens next. -/
inductive Move (π : Type)
  | connect (levels : Option Nat) (capacity : Nat)
  | frame (client : ClientId) (text : String)
  | hangUp (client : ClientId)
  /-- The call of a client takes its next step. -/
  | go (client : ClientId)
  /-- The call of a client to join a room is refused before it comes to the hub. -/
  | refuse (client : ClientId) (failure : JoinError)
  /-- The writer of a client takes the oldest payload. -/
  | take (client : ClientId)
  /-- The writer of a client is gone. -/
  | drop (client : ClientId)
  | other (move : Traffic.Move π)

/-- Changes the mailboxes. -/
def mail (lobby : Lobby π) (boxes : Mailboxes π) : Lobby π :=
  { lobby with traffic := lobby.traffic.step (.mailboxes boxes) }

/-- Changes one client. -/
def place (lobby : Lobby π) (client : ClientId) (caller : Caller π) : Lobby π :=
  { lobby with callers := lobby.callers.set client caller }

/-- Something happens to a client. -/
def meet (lobby : Lobby π) (client : ClientId) (event : Guest.Event) : Lobby π :=
  match lobby.callers[client]? with
  | some caller => lobby.place client (caller.meet client event)
  | none => lobby

def step (lobby : Lobby π) : Move π → Lobby π
  | .connect levels capacity =>
    let client := lobby.callers.length
    { lobby.mail (lobby.hub.boxes ++ [(client, { capacity := capacity })]) with
      callers := lobby.callers ++ [{ guest := { levels := levels } }] }
  | .frame client text => lobby.meet client (.frame text)
  | .hangUp client => lobby.meet client .hangUp
  | .go client =>
    match lobby.callers[client]? with
    | some caller =>
      match caller.operation with
      | some operation =>
        { lobby with traffic.hub := (operation.step lobby.hub).2 }.place client
          (caller.go client operation lobby.hub)
      | none => lobby
    | none => lobby
  | .refuse client failure =>
    match lobby.callers[client]? with
    | some caller =>
      match caller.operation with
      | some (.subscribe _ _ _ .looking) => lobby.place client (caller.answer client (some failure))
      | _ => lobby
    | none => lobby
  | .take client => lobby.mail (lobby.hub.boxes.modify client fun queue => queue.take.2)
  | .drop client => lobby.mail (lobby.hub.boxes.close client)
  | .other move =>
    if move.isApart then { lobby with traffic := lobby.traffic.step move } else lobby

/-- A new hub after some moves. -/
def run (kind : FeedKind) (config : HubConfig) (moves : List (Move π)) : Lobby π :=
  moves.foldl step { traffic := Traffic.run kind config [] }

end Lobby

end Hub

end MarketGateway
