import MarketGateway.Duration
import MarketGateway.Number.Binary64

/-!
# Heartbeats

A connection pings its peer at a fixed interval and is given up when no frame comes for the length
of its read deadline.
-/

namespace MarketGateway

/-- Cadence of pings and the longest silence that is endured. -/
structure Heartbeat where
  pingInterval : Duration
  readDeadline : Duration
  deriving Repr, DecidableEq, Inhabited

namespace Heartbeat

/-- A duration as a number of seconds: whole seconds plus the rest in doubles. -/
def seconds (d : Duration) : Binary64 :=
  (Binary64.ofNat (d / 1000000000)).add
    ((Binary64.ofNat (d % 1000000000)).div (.ofNat 1000000000))

/-- The duration nearest to a number of seconds; ties go to the even number of nanoseconds. -/
def ofSeconds : Binary64 → Duration
  | .finite false units => Binary64.roundToMultiple (units * 1000000000) Binary64.one 1
  | _ => 0

/-- Pings at nine tenths of the read deadline. -/
def ofReadDeadline (deadline : Duration) : Heartbeat :=
  ⟨ofSeconds ((Binary64.ofDecimal false 9 (-1)).mul (seconds deadline)), deadline⟩

def standard : Heartbeat := ofReadDeadline (.ofSecs 60)

/-- Time between two pings; at least a millisecond. -/
def period (heartbeat : Heartbeat) : Duration := max heartbeat.pingInterval (.ofMillis 1)

end Heartbeat

end MarketGateway
