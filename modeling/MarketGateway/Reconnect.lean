import MarketGateway.Duration
import MarketGateway.Number.Binary64

/-!
# Reconnect policies

How long to wait before the next attempt to connect. Delays grow from an initial one by a factor and
stay below a bound; `Backoff.ask` gives the next delay unless the allowed attempts are used up, and
`Backoff.reset` starts over after a connection. The growing delay is kept in whole milliseconds, and
each one is the double nearest to the product, rounded to a whole number.

The random part of a delay is an argument, so that what holds for all arguments holds for every
draw. The draw itself fails when the interval to draw from has no finite length: for a width that
is no number or infinite, or half of which is beyond the doubles. Whoever asks crashes then.
-/

namespace MarketGateway

/-- How delays between attempts grow. -/
structure ReconnectPolicy where
  initialDelay : Duration
  /-- Upper bound of every delay. -/
  maxDelay : Duration
  multiplier : Binary64
  /-- Width of the random part as a share of the delay; at most zero for none. -/
  jitter : Binary64
  /-- Number of attempts that are allowed; zero for any number. -/
  maxAttempts : Nat
  deriving Repr, DecidableEq

namespace ReconnectPolicy

/-- From one second to two minutes, doubling. -/
def standard : ReconnectPolicy where
  initialDelay := .ofSecs 1
  maxDelay := .ofSecs 120
  multiplier := .ofNat 2
  jitter := .zero
  maxAttempts := 0

/-- The same delay every time. -/
def immediate (delay : Duration) : ReconnectPolicy where
  initialDelay := delay
  maxDelay := delay
  multiplier := .ofNat 1
  jitter := .zero
  maxAttempts := 0

/-- How many milliseconds the random part can add to a delay, or take from it. -/
def width (policy : ReconnectPolicy) (delay : Duration) : Binary64 :=
  (Binary64.ofNat delay.millis).mul policy.jitter

/-- Whether there is no random part, or it is drawn from an interval of finite length. -/
def draws (policy : ReconnectPolicy) (delay : Duration) : Bool :=
  policy.jitter.nonPositive || ((policy.width delay).add (policy.width delay)).isFinite

/-- A delay with its random part, which is `offset` milliseconds long. It lasts at least one
millisecond, and without jitter it is left as it is. -/
def jittered (policy : ReconnectPolicy) (offset : Binary64) (delay : Duration) : Duration :=
  if policy.jitter.nonPositive then delay
  else
    let millis := (Binary64.ofNat delay.millis).add offset
    let millis := if (Binary64.ofNat 1).lt millis then millis else .ofNat 1
    .ofMillis (millis.toNat (Nat.pow 2 64 - 1))

/-- The delay after the given one: a product that is no positive number counts as zero. -/
def grow (policy : ReconnectPolicy) (delay : Duration) : Duration :=
  let scaled := ((Binary64.ofNat delay.millis).mul policy.multiplier).roundHalfAway
  let millis :=
    match scaled with
    | .finite _ _ => scaled.toNat (Nat.pow 2 128 - 1)
    | _ => 0
  .ofMillis (min (min millis policy.maxDelay.millis) (Nat.pow 2 64 - 1))

end ReconnectPolicy

/-- Where a connection stands in its attempts. -/
structure Backoff where
  policy : ReconnectPolicy
  current : Duration
  attempts : Nat
  deriving Repr, DecidableEq

namespace Backoff

/-- No attempts made. -/
def new (policy : ReconnectPolicy) : Backoff := ⟨policy, policy.initialDelay, 0⟩

/-- Starts over. -/
def reset (backoff : Backoff) : Backoff := new backoff.policy

/-- Whether one more attempt is allowed. -/
def mayRetry (backoff : Backoff) : Bool :=
  backoff.policy.maxAttempts == 0 || backoff.attempts < backoff.policy.maxAttempts

/-- What comes of asking for the next delay. -/
inductive Outcome
  /-- No further attempt is allowed. -/
  | exhausted
  /-- The random part could not be drawn. -/
  | crashed
  /-- The delay before the next attempt, and the state after it. -/
  | delays (delay : Duration) (after : Backoff)
  deriving Repr, DecidableEq

/-- Asks for the next delay, whose random part is the given one if it can be drawn. -/
def ask (backoff : Backoff) (offset : Binary64) : Outcome :=
  if !backoff.mayRetry then .exhausted
  else if !backoff.policy.draws backoff.current then .crashed
  else
    .delays (min (backoff.policy.jittered offset backoff.current) backoff.policy.maxDelay)
      { backoff with
        current := backoff.policy.grow backoff.current
        attempts := backoff.attempts + 1 }

/-- The delay before the next attempt and the state after it, if there are any. -/
def next (backoff : Backoff) (offset : Binary64 := .zero) : Option (Duration × Backoff) :=
  match backoff.ask offset with
  | .delays delay after => some (delay, after)
  | .exhausted | .crashed => none

end Backoff

end MarketGateway
