import MarketGateway.Rpc.Client

/-!
# Trading clients whose handshakes are played

What a client does by itself when the outcome of every handshake is given. The random parts of
delays are drawn as zero.
-/

namespace MarketGateway.Rpc.Client

/-- Opens a connection; the flag says whether that worked. -/
def connect (client : Client) (handshake : Except TransportError Unit) (stamp : Stamp) :
    Bool × Client :=
  match client.beginConnect.onHandshake handshake with
  | (.error _, client) => (false, client)
  | (.ok _, client) => (true, (client.logOn stamp).2)

/-- The next turn of the reconnection; a wait is over at once. -/
def playTurn (client : Client) (handshake : Except TransportError Unit) (stamp : Stamp) : Client :=
  match client.reconnection with
  | .connecting => client.reconnectStep (.handshake handshake stamp .zero)
  | .waiting due => { client with now := max client.now due }.reconnectStep .go
  | _ => client.reconnectStep .go

/-- Lets the reconnection go on for at most so many turns. -/
def playTurns (handshake : Except TransportError Unit) (stamp : Stamp) : Nat → Client → Client
  | 0, client => client
  | n + 1, client =>
    if client.reconnection = .idle then client
    else playTurns handshake stamp n (client.playTurn handshake stamp)

/-- Asks for a reconnection and lets it go on to its end. An attempt takes three turns, and when all
of them fail as many attempts are made as the settings allow besides the first. -/
def playReconnect (client : Client) (handshake : Except TransportError Unit) (stamp : Stamp) :
    Client :=
  playTurns handshake stamp (3 * (client.config.reconnect.maxAttempts + 1)) client.triggerReconnect

end MarketGateway.Rpc.Client
