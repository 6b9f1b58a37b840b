import MarketGateway.Proofs.Book.Replay
import MarketGateway.Proofs.Depth.Feed

/-!
# Calls of depth sessions

A call is a frame, a snapshot or a bridge timeout that reaches a depth session. It ends the session
if it is refused (`Session.refusal?`): a frame that tells of an error, or an error of the
synchronizer that is not about a stale snapshot. Every other call leaves a session that goes on
(`Session.after`).

`Session.takes` says what is published: nothing by a call that is refused, and by another one the
view after it (`Session.news`), if it brought an event or found the replica out of step.
-/

namespace MarketGateway.Depth

open Book

/-! ## Calls -/

/-- What reaches a depth session. -/
inductive Call
  | frame (text : String)
  | snapshot (snapshot : Snapshot)
  | bridgeTimeout

/-- The event of a symbol that the call brings. -/
def Call.event? (symbol : String) : Call → Option DiffEvent
  | frame text => eventOf? symbol text
  | snapshot _ | bridgeTimeout => none

def Call.frame? : Call → Option String
  | frame text => some text
  | snapshot _ | bridgeTimeout => none

def Call.snapshot? : Call → Option Snapshot
  | snapshot taken => some taken
  | frame _ | bridgeTimeout => none

/-- The events of a symbol among the calls, in their order. -/
def heard (symbol : String) (calls : List Call) : List DiffEvent :=
  calls.filterMap (·.event? symbol)

/-- The snapshots among the calls. -/
def snapshots (calls : List Call) : List Snapshot := calls.filterMap Call.snapshot?

/-- The error that a frame tells of. -/
def errorOf? (frame : String) : Option ExchangeError :=
  match Market.decode frame with
  | .ok (.error error) => some error.error
  | _ => none

/-- The failure with which an error of the synchronizer ends a session. -/
def failureOf? (error : SyncError) : Option FeedError :=
  if error.isStale then none else some (.desync error)

namespace Session

/-- The failure with which a call ends the session. -/
def refusal? (session : Session) : Call → Option FeedError
  | .frame text =>
    match errorOf? text, eventOf? session.symbol text with
    | some error, _ => some (.exchange error)
    | none, some event =>
      match (session.sync.ingest event).1 with
      | .error error => failureOf? error
      | .ok _ => none
    | none, none => none
  | .snapshot taken =>
    match (session.sync.onSnapshot taken).1 with
    | .error error => failureOf? error
    | .ok _ => none
  | .bridgeTimeout => none

/-- Takes a call: how the session ends if it does, the session after it and the views that are
published. -/
def take (session : Session) : Call → Option FeedError × Session × List View
  | .frame text =>
    match session.onFrame text with
    | (.error error, session, effects) => (some error, session, effects.published)
    | (.ok (), session, effects) => (none, session, effects.published)
  | .snapshot taken =>
    match session.onSnapshot taken with
    | (.error error, session, effects) => (failureOf? error, session, effects.published)
    | (.ok _, session, effects) => (none, session, effects.published)
  | .bridgeTimeout => (none, session.onBridgeTimeout, [])

end Session

/-! ## One call -/

/-- What the call does with a synchronizer for a symbol. -/
def Call.moves (symbol : String) : Call → List Synchronizer.Move
  | frame text => (eventOf? symbol text).toList.map .ingest
  | snapshot taken => [.snapshot taken]
  | bridgeTimeout => [.bridgeTimeout]

namespace Session

variable {session : Session} {call : Call}

theorem eventOf?_of_error {symbol text : String} {error : ExchangeError}
    (hError : errorOf? text = some error) : eventOf? symbol text = none := by
  unfold errorOf? at hError
  unfold eventOf?
  split at hError
  · next hDecode => rw [hDecode]
  · cases hError

theorem errorOf?_of_event {symbol text : String} {event : DiffEvent}
    (hEvent : eventOf? symbol text = some event) : errorOf? text = none := by
  cases hError : errorOf? text with
  | none => rfl
  | some error => exact absurd (hEvent.symm.trans (eventOf?_of_error hError)) (by simp)

/-- The session after a call. -/
def after (session : Session) (call : Call) : Session :=
  { session with sync := session.sync.run (call.moves session.symbol) }

/-- What a call that does not end the session publishes: the view, if the replica came in step or
went on. -/
def news (session : Session) (call : Call) : List View :=
  if session.sync.state ≠ .synced ∨ (call.event? session.symbol).isSome then
    (session.after call).view?.toList
  else []

/-- What a call does. -/
inductive Takes (session : Session) (call : Call) : Option FeedError × Session × List View → Prop
  | goesOn (hGoes : session.refusal? call = none) :
      Takes session call (none, session.after call, session.news call)
  | ends {error : FeedError} (hEnds : session.refusal? call = some error) :
      Takes session call (some error, session.after call, [])

theorem after_frame {text : String} {event : DiffEvent}
    (hEvent : eventOf? session.symbol text = some event) :
    session.after (.frame text) = { session with sync := (session.sync.ingest event).2 } := by
  simp only [after, Call.moves, hEvent]
  rfl

theorem after_frame_of_none {text : String} (hEvent : eventOf? session.symbol text = none) :
    session.after (.frame text) = session := by
  simp only [after, Call.moves, hEvent]
  rfl

/-- A view is published only while the replica is in step. -/
theorem view?_of_not_synced (hState : session.sync.state ≠ .synced) : session.view? = none := by
  unfold view?
  split
  · next hSynced _ => exact absurd hSynced hState
  · rfl

theorem news_of_not_synced (hState : (session.after call).sync.state ≠ .synced) :
    session.news call = [] := by
  rw [news, view?_of_not_synced hState]
  exact ite_self _

/-- Without an event, nothing is published unless the replica comes in step. -/
theorem news_of_eventless (hEvent : call.event? session.symbol = none)
    (hState : (session.after call).sync.state = .synced → session.sync.state = .synced) :
    session.news call = [] := by
  by_cases hBefore : session.sync.state = .synced
  · exact if_neg (by simp [hBefore, hEvent])
  · exact news_of_not_synced fun hAfter => hBefore (hState hAfter)

/-- A frame tells of an error, brings an event of the symbol, or does nothing. -/
theorem onMessage_cases (session : Session) (text : String) :
    (∃ error, errorOf? text = some error ∧
      session.onMessage (Market.decode text) = (.error (.exchange error), session, {})) ∨
    (∃ event, errorOf? text = none ∧ eventOf? session.symbol text = some event ∧
      session.onMessage (Market.decode text) = session.onEvent event) ∨
    (errorOf? text = none ∧ eventOf? session.symbol text = none ∧
      session.onMessage (Market.decode text) = (.ok (), session, {})) := by
  unfold errorOf? eventOf?
  cases Market.decode text with
  | error fault => exact .inr (.inr ⟨rfl, rfl, rfl⟩)
  | ok message =>
    cases message with
    | depth update =>
      by_cases hSymbol : Text.equalIgnoringCase update.symbol session.symbol = true
      · exact .inr (.inl ⟨update.event, rfl, if_pos hSymbol, if_pos hSymbol⟩)
      · exact .inr (.inr ⟨rfl, if_neg hSymbol, if_neg hSymbol⟩)
    | error error => exact .inl ⟨error.error, rfl, rfl⟩
    | markPrice update => exact .inr (.inr ⟨rfl, rfl, rfl⟩)
    | ack update => exact .inr (.inr ⟨rfl, rfl, rfl⟩)
    | other kind => exact .inr (.inr ⟨rfl, rfl, rfl⟩)

theorem takes_event {text : String} {event : DiffEvent} (hError : errorOf? text = none)
    (hEvent : eventOf? session.symbol text = some event)
    (hMessage : session.onMessage (Market.decode text) = session.onEvent event) :
    session.Takes (.frame text) (session.take (.frame text)) := by
  have hAfter := after_frame hEvent
  have hSynced := session.sync.ingest_synced_iff event
  cases hIngest : session.sync.ingest event with | mk answer next =>
  rw [hIngest] at hAfter hSynced
  cases answer with
  | ok progress =>
    have hGoes : session.refusal? (.frame text) = none := by
      simp only [refusal?, hError, hEvent, hIngest]
    have hNews : session.news (.frame text) =
        if progress.changedBook then (session.after (.frame text)).view?.toList else [] := by
      cases hChanged : progress.changedBook with
      | true => exact if_pos (.inr (by simp [Call.event?, hEvent]))
      | false =>
        refine news_of_not_synced ?_
        intro hState
        rw [hAfter] at hState
        simpa [hChanged] using hSynced.mp hState
    have hTaken := Takes.goesOn hGoes
    rw [hNews, hAfter] at hTaken
    simpa only [take, onFrame, hMessage, onEvent, hIngest] using hTaken
  | error error =>
    have hOut : (session.after (.frame text)).sync.state ≠ .synced := by
      intro hState
      rw [hAfter] at hState
      simpa using hSynced.mp hState
    cases hStale : error.isStale with
    | true =>
      have hGoes : session.refusal? (.frame text) = none := by
        simp only [refusal?, hError, hEvent, hIngest, failureOf?, hStale, if_true]
      have hTaken := Takes.goesOn hGoes
      rw [news_of_not_synced hOut, hAfter] at hTaken
      simpa only [take, onFrame, hMessage, onEvent, hIngest, hStale, if_true] using hTaken
    | false =>
      have hEnds : session.refusal? (.frame text) = some (.desync error) := by
        simp [refusal?, hError, hEvent, hIngest, failureOf?, hStale]
      have hTaken := Takes.ends hEnds
      rw [hAfter] at hTaken
      simpa [take, onFrame, hMessage, onEvent, hIngest, hStale] using hTaken

theorem takes_frame (session : Session) (text : String) :
    session.Takes (.frame text) (session.take (.frame text)) := by
  rcases session.onMessage_cases text with ⟨error, hError, hMessage⟩ |
    ⟨event, hError, hEvent, hMessage⟩ | ⟨hError, hEvent, hMessage⟩
  · have hEnds : session.refusal? (.frame text) = some (.exchange error) := by
      simp only [refusal?, hError]
    have hTaken := Takes.ends hEnds
    rw [after_frame_of_none (eventOf?_of_error hError)] at hTaken
    simpa only [take, onFrame, hMessage] using hTaken
  · exact takes_event hError hEvent hMessage
  · have hAfter := after_frame_of_none hEvent
    have hGoes : session.refusal? (.frame text) = none := by
      simp only [refusal?, hError, hEvent]
    have hTaken := Takes.goesOn hGoes
    have hNews : session.news (.frame text) = [] :=
      news_of_eventless hEvent fun hState => hAfter ▸ hState
    rw [hNews, hAfter] at hTaken
    simpa only [take, onFrame, hMessage] using hTaken

theorem takes_snapshot (session : Session) (taken : Snapshot) :
    session.Takes (.snapshot taken) (session.take (.snapshot taken)) := by
  have hAfter : session.after (.snapshot taken) =
    { session with sync := (session.sync.onSnapshot taken).2 } := rfl
  have hAnswer := session.sync.onSnapshot_answer taken
  cases hSnapshot : session.sync.onSnapshot taken with | mk answer next =>
  rw [hSnapshot] at hAfter hAnswer
  dsimp only at hAnswer
  rcases hAnswer with ⟨hOut, rfl⟩ | ⟨error, rfl, hState⟩
  · have hGoes : session.refusal? (.snapshot taken) = none := by
      simp only [refusal?, hSnapshot]
    have hTaken := Takes.goesOn hGoes
    rw [news, if_pos (.inl hOut), hAfter] at hTaken
    simpa only [take, onSnapshot, hSnapshot] using hTaken
  · have hNews : session.news (.snapshot taken) = [] := by
      refine news_of_eventless rfl ?_
      rw [hAfter]
      exact hState
    cases hStale : error.isStale with
    | true =>
      have hGoes : session.refusal? (.snapshot taken) = none := by
        simp only [refusal?, hSnapshot, failureOf?, hStale, if_true]
      have hTaken := Takes.goesOn hGoes
      rw [hNews, hAfter] at hTaken
      simpa only [take, onSnapshot, hSnapshot, failureOf?, hStale, if_true] using hTaken
    | false =>
      have hEnds : session.refusal? (.snapshot taken) = some (.desync error) := by
        simp [refusal?, hSnapshot, failureOf?, hStale]
      have hTaken := Takes.ends hEnds
      rw [hAfter] at hTaken
      simpa [take, onSnapshot, hSnapshot, failureOf?, hStale] using hTaken

theorem synced_of_onBridgeTimeout {sync : Synchronizer}
    (hState : sync.onBridgeTimeout.state = .synced) : sync.state = .synced := by
  unfold Synchronizer.onBridgeTimeout at hState
  split at hState
  · cases hState
  · exact hState

theorem takes (session : Session) (call : Call) : session.Takes call (session.take call) := by
  cases call with
  | frame text => exact session.takes_frame text
  | snapshot taken => exact session.takes_snapshot taken
  | bridgeTimeout =>
    have hGoes : session.refusal? .bridgeTimeout = none := rfl
    have hTaken := Takes.goesOn hGoes
    have hNews : session.news .bridgeTimeout = [] :=
      news_of_eventless rfl synced_of_onBridgeTimeout
    rwa [hNews] at hTaken

/-- A call that brings the session in step does not end it. -/
theorem goesOn_of_synced (hOut : session.sync.state ≠ .synced)
    (hIn : (session.after call).sync.state = .synced) : session.refusal? call = none := by
  cases call with
  | frame text =>
    cases hEvent : eventOf? session.symbol text with
    | none =>
      rw [after_frame_of_none hEvent] at hIn
      exact absurd hIn hOut
    | some event =>
      rw [after_frame hEvent] at hIn
      obtain ⟨progress, hAnswer, -⟩ := (session.sync.ingest_synced_iff event).mp hIn
      simp only [refusal?, errorOf?_of_event hEvent, hEvent, hAnswer]
  | snapshot taken =>
    rcases session.sync.onSnapshot_answer taken with ⟨-, hAnswer⟩ | ⟨error, -, hState⟩
    · simp only [refusal?, hAnswer]
    · exact absurd (hState hIn) hOut
  | bridgeTimeout => rfl

end Session

end MarketGateway.Depth
