import MarketGateway.Duration
import MarketGateway.Failure
import MarketGateway.Queue

/-!
# Failures of connections to the exchange
-/

namespace MarketGateway

/-- Why a connection could not be opened or ended. Accounts of the socket itself are not told
apart. -/
inductive TransportError
  | connect
  | connectTimeout
  | webSocket
  | readDeadline (after : Duration)
  | writeTimeout (after : Duration)
  | inboundOverflow (capacity : Nat)
  | outboundFull
  | closed
  | cancelled
  deriving Repr, DecidableEq, Inhabited

def TransportError.message : TransportError → String
  | connect => "connect to <detail>"
  | connectTimeout => "connect to <detail>"
  | webSocket => "WebSocket error: <detail>"
  | readDeadline after => "no frame received for " ++ after.toText
  | writeTimeout after => "write stalled for " ++ after.toText
  | inboundOverflow capacity =>
    "inbound queue overflow (" ++ Text.natural capacity ++ " frames)"
  | outboundFull => "outbound queue full"
  | closed => "connection closed"
  | cancelled => "connection cancelled"

def TransportError.kind : TransportError → String
  | connect => "Connect"
  | connectTimeout => "ConnectTimeout"
  | webSocket => "WebSocket"
  | readDeadline _ => "ReadDeadline"
  | writeTimeout _ => "WriteTimeout"
  | inboundOverflow _ => "InboundOverflow"
  | outboundFull => "OutboundFull"
  | closed => "Closed"
  | cancelled => "Cancelled"

instance : Failure TransportError := ⟨TransportError.kind, TransportError.message⟩

/-- Why a frame could not be queued for writing. -/
def TransportError.ofOffer : Offer → Option TransportError
  | .accepted => none
  | .full => some outboundFull
  | .closed => some closed

end MarketGateway
