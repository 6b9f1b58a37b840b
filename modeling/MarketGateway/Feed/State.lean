import MarketGateway.Metrics

/-!
# States of feeds

`FeedState` counts the connected sessions of a feed and keeps its last transition for reports. A
feed is connected while any session is; a session that starts, ends or backs off is noted only
while no other is connected.
-/

namespace MarketGateway

/-- State of a feed as it is reported. -/
inductive FeedStatus
  | disconnected
  | connecting
  | connected
  | reconnecting
  deriving Repr, DecidableEq, Inhabited

def FeedStatus.name : FeedStatus → String
  | disconnected => "disconnected"
  | connecting => "connecting"
  | connected => "connected"
  | reconnecting => "reconnecting"

/-- What is known of a feed, which may run many sessions. -/
structure FeedState where
  kind : FeedKind
  /-- The last transition that was noted. -/
  noted : FeedStatus := .disconnected
  /-- Sessions that are connected. -/
  sessions : Nat := 0
  messages : Nat := 0
  /-- Attempts of the session that backed off last. -/
  attempts : Nat := 0
  everConnected : Bool := false
  lastError : Option String := none
  deriving Repr, DecidableEq

namespace FeedState

/-- Notes a transition unless a session is connected. -/
def note (state : FeedState) (status : FeedStatus) : FeedState :=
  if state.sessions = 0 then { state with noted := status } else state

@[simp] theorem sessions_note (state : FeedState) (status : FeedStatus) :
    (state.note status).sessions = state.sessions := by
  unfold note
  split <;> rfl

@[simp] theorem messages_note (state : FeedState) (status : FeedStatus) :
    (state.note status).messages = state.messages := by
  unfold note
  split <;> rfl

theorem noted_note {state : FeedState} (hNone : state.sessions = 0) (status : FeedStatus) :
    (state.note status).noted = status := by
  rw [note, if_pos hNone]

/-- A session starts. -/
def connecting (state : FeedState) : FeedState := state.note .connecting

/-- A session is connected. -/
def connected (state : FeedState) : FeedState :=
  { state with
    sessions := state.sessions + 1
    attempts := 0
    noted := .connected
    everConnected := true
    lastError := none }

/-- A session ends that was or was not connected. -/
def ended (state : FeedState) (wasConnected : Bool) (error : Option String) : FeedState :=
  ({ state with
    sessions := if wasConnected then state.sessions - 1 else state.sessions
    lastError := error.or state.lastError }).note .disconnected

/-- A session waits before the given attempt. -/
def reconnecting (state : FeedState) (attempt : Nat) : FeedState :=
  ({ state with attempts := attempt }).note .reconnecting

/-- A message came. -/
def message (state : FeedState) : FeedState := { state with messages := state.messages + 1 }

/-- The reported state. -/
def status (state : FeedState) : FeedStatus :=
  if 0 < state.sessions then .connected else state.noted

theorem status_of_sessions_eq_zero {state : FeedState} (hNone : state.sessions = 0) :
    state.status = state.noted := by
  rw [status, if_neg (by omega)]

end FeedState

end MarketGateway
