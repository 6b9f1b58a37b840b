import MarketGateway.Proofs.Book.Refusals
import MarketGateway.Proofs.Depth.Call

/-!
# Attempts of depth feeds

A depth feed fetches one snapshot after another until one is bridged. An attempt is spent when its
snapshot turns out stale, against the buffer or against an event of the stream, or when no event has
bridged it in time (`Feed.verdict?`).

`Feed.Stands` says where a feed stands that has spent so many attempts, and `Stands.step` that every
input keeps to it: while a snapshot is fetched the synchronizer connects, while one waits to be
bridged the time allowed for it is not over, and a live feed is in step. `Feed.Ends` lists what else
ends a feed than that all attempts are spent.
-/

namespace MarketGateway

namespace Book

/-- The answer of a synchronizer is that the snapshot is stale. -/
def outrun {α : Type} : Except SyncError α → Bool
  | .error error => error.isStale
  | .ok _ => false

namespace Synchronizer

variable {sync : Synchronizer}

/-- An event that is not refused finds the snapshot stale that waits for a bridge, brings the
replica in step, or leaves the state as it is. -/
theorem state_ingest {event : DiffEvent}
    (hGoes : ∀ error, (sync.ingest event).1 = .error error → error.isStale = true) :
    (outrun (sync.ingest event).1 = true ∧ sync.state = .awaitingBridge ∧
        (sync.ingest event).2.state = .connecting) ∨
      (outrun (sync.ingest event).1 = false ∧
        ((sync.ingest event).2.state = sync.state ∨
          sync.state = .awaitingBridge ∧ (sync.ingest event).2.state = .synced)) := by
  have hSpec := ingest_spec sync event
  generalize sync.ingest event = outcome at hSpec hGoes
  cases hSpec with
  | stale hState => exact .inl ⟨rfl, hState, rfl⟩
  | buffered | discarded | applied => exact .inr ⟨rfl, .inl rfl⟩
  | bridged hState => exact .inr ⟨rfl, .inr ⟨hState, rfl⟩⟩
  | stopped | overflow | bookless | bridgeRefused | refused =>
    exact absurd (hGoes _ rfl) (by simp [SyncError.isStale])

/-- A replay that is not refused goes on waiting or comes in step. -/
theorem state_replay {events : List DiffEvent} {state : SyncState}
    (hOpen : sync.state = .awaitingBridge ∨ sync.state = .synced)
    (hAnswer : (sync.replay events).1 = .ok state) :
    state = .awaitingBridge ∨ state = .synced := by
  induction events generalizing sync with
  | nil =>
    cases hAnswer
    exact hOpen
  | cons event rest ih =>
    have hStates := @state_ingest sync event
    rw [replay] at hAnswer
    generalize sync.ingest event = outcome at hStates hAnswer
    obtain ⟨answer, next⟩ := outcome
    cases answer with
    | error error => cases hAnswer
    | ok progress =>
      refine ih ?_ hAnswer
      rcases hStates (by simp) with ⟨hOutrun, -, -⟩ | ⟨-, hSame | ⟨-, hSynced⟩⟩
      · cases hOutrun
      · rw [hSame]
        exact hOpen
      · exact .inr hSynced

/-- A snapshot that a connecting synchronizer takes waits for a bridge or is bridged, and one that
is stale leaves it connecting. -/
theorem state_onSnapshot (hState : sync.state = .connecting) (snapshot : Snapshot) :
    ((sync.onSnapshot snapshot).1 = .ok (sync.onSnapshot snapshot).2.state ∧
      ((sync.onSnapshot snapshot).2.state = .awaitingBridge ∨
        (sync.onSnapshot snapshot).2.state = .synced)) ∨
    ∃ error, (sync.onSnapshot snapshot).1 = .error error ∧
      (error.isStale = true → (sync.onSnapshot snapshot).2.state = .connecting) := by
  rcases sync.onSnapshot_answer snapshot with ⟨-, hAnswer⟩ | ⟨error, hError, -⟩
  · refine .inl ⟨hAnswer, ?_⟩
    rw [onSnapshot_of_open snapshot (.inl hState)] at hAnswer ⊢
    exact state_replay (.inl rfl) hAnswer
  · refine .inr ⟨error, hError, ?_⟩
    cases error with
    | staleSnapshot => exact fun _ => onSnapshot_connecting hError
    | bufferOverflow | unexpectedInput | book => simp [SyncError.isStale]

end Synchronizer

end Book

namespace Depth

open Book

/-! ## Frames and snapshots that reach a session -/

namespace Session

variable {session : Session} {text : String}

/-- The event that comes with a frame finds the snapshot stale. -/
def outruns (session : Session) (text : String) : Bool :=
  match eventOf? session.symbol text with
  | some event => outrun (session.sync.ingest event).1
  | none => false

/-- An event that is refused finds no snapshot stale. -/
theorem outruns_of_refused {error : FeedError}
    (hRefused : session.refusal? (.frame text) = some error) : session.outruns text = false := by
  cases hEvent : eventOf? session.symbol text with
  | none => rw [outruns, hEvent]
  | some event =>
    rw [outruns, hEvent]
    simp only [refusal?, errorOf?_of_event hEvent, hEvent] at hRefused
    dsimp only
    generalize (session.sync.ingest event).1 = answer at hRefused ⊢
    cases answer with
    | ok progress => rfl
    | error refusal =>
      dsimp only [outrun] at hRefused ⊢
      cases hStale : refusal.isStale with
      | false => rfl
      | true => simp [failureOf?, hStale] at hRefused

theorem state_after_frame (hGoes : session.refusal? (.frame text) = none) :
    (session.outruns text = true ∧ session.sync.state = .awaitingBridge ∧
        (session.after (.frame text)).sync.state = .connecting) ∨
      (session.outruns text = false ∧
        ((session.after (.frame text)).sync.state = session.sync.state ∨
          session.sync.state = .awaitingBridge ∧
            (session.after (.frame text)).sync.state = .synced)) := by
  cases hEvent : eventOf? session.symbol text with
  | none =>
    rw [after_frame_of_none hEvent, outruns, hEvent]
    exact .inr ⟨rfl, .inl rfl⟩
  | some event =>
    have hTaken : ∀ error, (session.sync.ingest event).1 = .error error →
        error.isStale = true := by
      intro error hError
      simpa [refusal?, errorOf?_of_event hEvent, hEvent, hError, failureOf?] using hGoes
    rw [after_frame hEvent, outruns, hEvent]
    exact Synchronizer.state_ingest hTaken

/-- What a frame answers, and the session that it leaves. -/
theorem onFrame_outcome (session : Session) (text : String) :
    ∃ effects, session.onFrame text =
      ((session.refusal? (.frame text)).elim (.ok ()) .error, session.after (.frame text),
        effects) := by
  have hOutcome : ∀ outcome, session.Takes (.frame text) outcome →
      outcome.1 = session.refusal? (.frame text) ∧ outcome.2.1 = session.after (.frame text) := by
    intro outcome hTakes
    cases hTakes with
    | goesOn hGoes => exact ⟨hGoes.symm, rfl⟩
    | ends hEnds => exact ⟨hEnds.symm, rfl⟩
  obtain ⟨hAnswer, hNext⟩ := hOutcome _ (session.takes_frame text)
  rw [← hAnswer, ← hNext]
  cases hFrame : session.onFrame text with | mk answer rest =>
  cases answer <;> exact ⟨rest.2, by simp [take, hFrame]⟩

end Session

/-! ## Attempts that are spent -/

/-- How an attempt was spent. -/
inductive Verdict
  /-- The events have gone on without the snapshot. -/
  | stale
  /-- No event has bridged the snapshot in time. -/
  | timedOut
  deriving Repr, DecidableEq

namespace Feed

/-- The feed when its clock shows a time, unless it is past. -/
def later (feed : Feed) (now : Duration) : Feed := { feed with now := max feed.now now }

/-- The time is over in which the snapshot was to be bridged. -/
def overdue? (feed : Feed) : Option Verdict :=
  match feed.phase with
  | .bridging _ due => if due ≤ feed.now then some .timedOut else none
  | _ => none

/-- The event that comes with a frame finds the snapshot stale that waits to be bridged. -/
def outrun? (feed : Feed) (text : String) : Option Verdict :=
  match feed.phase with
  | .bridging _ _ => if feed.session.outruns text then some .stale else none
  | _ => none

/-- How an input spends the attempt that is under way. Where the time is over and an event comes,
the event is not about the snapshot any more. -/
def verdict? (feed : Feed) : Input → Option Verdict
  | .time now => (feed.later now).overdue?
  | .snapshot (.ok taken) =>
    match feed.phase with
    | .fetching _ => if outrun (feed.session.sync.onSnapshot taken).1 then some .stale else none
    | _ => none
  | .snapshot (.error _) => none
  | .feed (.frame text) => feed.overdue?.or (feed.outrun? text)
  | .feed (.lost _) => feed.overdue?
  | .feed .cancelled => none

/-- How the inputs spend attempts. -/
def verdicts (feed : Feed) : List Input → List Verdict
  | [] => []
  | input :: rest => (feed.verdict? input).toList ++ (feed.step input).verdicts rest

/-- The failure of a feed whose attempts are spent. -/
def noBridge (config : DepthConfig) : FeedError :=
  .snapshot
    ("no bridging snapshot after " ++ Text.natural config.maxSnapshotAttempts ++ " attempts")

/-- Only a snapshot that waits to be bridged can be late. -/
theorem overdue?_eq_none {feed : Feed} (hElse : ∀ attempt due, feed.phase ≠ .bridging attempt due) :
    feed.overdue? = none := by
  unfold overdue?
  split
  · next attempt due hPhase => exact absurd hPhase (hElse attempt due)
  · rfl

theorem outrun?_eq_none {feed : Feed} (hElse : ∀ attempt due, feed.phase ≠ .bridging attempt due)
    (text : String) : feed.outrun? text = none := by
  unfold outrun?
  split
  · next attempt due hPhase => exact absurd hPhase (hElse attempt due)
  · rfl

theorem ne_bridging_of_over {feed : Feed} (hOver : feed.isOver = true) (attempt : Nat)
    (due : Duration) : feed.phase ≠ .bridging attempt due := by
  intro hPhase
  simp [isOver, hPhase] at hOver

/-- What else ends a feed, and with which failure if with one. -/
inductive Ends (feed : Feed) : Input → Option FeedError → Prop
  | cancelled : Ends feed (.feed .cancelled) none
  | notFetched (attempt : Nat) (error : FeedError) (hPhase : feed.phase = .fetching attempt) :
      Ends feed (.snapshot (.error error)) (some error)
  | lost (error : TransportError) : Ends feed (.feed (.lost error)) (some (.ofTransport error))
  /-- The frame tells of an error, or its event does not go on from the others. -/
  | frame (text : String) (error : FeedError)
      (hRefused : feed.checkBridge.session.refusal? (.frame text) = some error) :
      Ends feed (.feed (.frame text)) (some error)
  /-- The events of the buffer do not go on from each other. -/
  | snapshot (taken : Snapshot) (error : FeedError)
      (hRefused : feed.session.refusal? (.snapshot taken) = some error) :
      Ends feed (.snapshot (.ok taken)) (some error)

/-! ## Where a feed stands -/

/-- Where a feed stands that has spent so many attempts. What else ended it has the property. -/
inductive Stage (Ended : Option FeedError → Prop) (config : DepthConfig) (spent : Nat)
    (feed : Feed) : Prop
  | fetching (hPhase : feed.phase = .fetching (spent + 1))
      (hState : feed.session.sync.state = .connecting)
      (hLeft : spent < config.maxSnapshotAttempts)
  | bridging {due : Duration} (hPhase : feed.phase = .bridging (spent + 1) due)
      (hState : feed.session.sync.state = .awaitingBridge) (hDue : feed.now ≤ due)
      (hLeft : spent < config.maxSnapshotAttempts)
  | live (hPhase : feed.phase = .live) (hState : feed.session.sync.state = .synced)
      (hLeft : spent < config.maxSnapshotAttempts)
  | exhausted (hPhase : feed.phase = .ended (some (noBridge config)))
      (hSpent : spent = config.maxSnapshotAttempts)
  | ended {failure : Option FeedError} (hPhase : feed.phase = .ended failure)
      (hEnded : Ended failure) (hLeft : spent < config.maxSnapshotAttempts)

/-- A feed with the configuration that has spent so many attempts. -/
structure Stands (Ended : Option FeedError → Prop) (config : DepthConfig) (spent : Nat)
    (feed : Feed) : Prop where
  ofConfig : feed.config = config
  fetches : feed.fetches = min (spent + 1) config.maxSnapshotAttempts
  stage : Stage Ended config spent feed

variable {Ended : Option FeedError → Prop} {config : DepthConfig} {spent attempts : Nat}
  {feed : Feed}

/-- A feed whose synchronizer connects asks for the next snapshot if there is an attempt left. -/
theorem stands_proceed (hConfig : feed.config = config) (hFetches : feed.fetches = attempts)
    (hState : feed.session.sync.state = .connecting)
    (hAttempts : attempts ≤ config.maxSnapshotAttempts) :
    Stands Ended config attempts (feed.proceed attempts) := by
  subst hConfig hFetches
  unfold proceed
  rw [if_neg (by simp [hState])]
  split
  · next hSpent =>
    have hAll : feed.fetches = feed.config.maxSnapshotAttempts := Nat.le_antisymm hAttempts hSpent
    exact ⟨rfl, by simp only [finish]; omega, .exhausted rfl hAll⟩
  · next hLeft => exact ⟨rfl, by dsimp only; omega, .fetching rfl hState (Nat.lt_of_not_le hLeft)⟩

theorem stands_start (config : DepthConfig) (key : RoomKey) :
    Stands Ended config 0 (start config key (.ok ())) :=
  stands_proceed rfl rfl rfl (Nat.zero_le _)

/-- A feed in the same phase stands there too, if the clock has not run past its wait. -/
theorem Stage.transfer {Other : Option FeedError → Prop} {next : Feed}
    (hStage : Stage Ended config spent feed) (hPhase : next.phase = feed.phase)
    (hSession : next.session = feed.session)
    (hDue : ∀ attempt due, feed.phase = .bridging attempt due → feed.now ≤ due → next.now ≤ due)
    (hEnded : ∀ failure, feed.phase = .ended failure → Ended failure → Other failure) :
    Stage Other config spent next := by
  cases hStage with
  | fetching hHere hState hLeft =>
    exact .fetching (hPhase.trans hHere) (by rw [hSession, hState]) hLeft
  | bridging hHere hState hWithin hLeft =>
    exact .bridging (hPhase.trans hHere) (by rw [hSession, hState]) (hDue _ _ hHere hWithin) hLeft
  | live hHere hState hLeft => exact .live (hPhase.trans hHere) (by rw [hSession, hState]) hLeft
  | exhausted hHere hSpent => exact .exhausted (hPhase.trans hHere) hSpent
  | ended hHere hOver hLeft => exact .ended (hPhase.trans hHere) (hEnded _ hHere hOver) hLeft

theorem Stage.mono {Weaker : Option FeedError → Prop} (hStage : Stage Ended config spent feed)
    (hWeaker : ∀ failure, Ended failure → Weaker failure) : Stage Weaker config spent feed :=
  hStage.transfer rfl rfl (fun _ _ _ hDue => hDue) fun failure _ => hWeaker failure

/-! ## Waits that are over -/

theorem checkBridge_of_none (hNone : feed.overdue? = none) : feed.checkBridge = feed := by
  unfold overdue? at hNone
  unfold checkBridge
  split
  · next attempt due hPhase =>
    have hBefore : ¬ due ≤ feed.now := by simpa [hPhase] using hNone
    exact if_neg hBefore
  · rfl

theorem checkBridge_of_some {verdict : Verdict} (hSome : feed.overdue? = some verdict) :
    ∃ attempt due, feed.phase = .bridging attempt due ∧ feed.checkBridge =
      (feed.adopt feed.session.onBridgeTimeout { metrics := [.resync .bridgeTimeout] }).proceed
        attempt := by
  unfold overdue? at hSome
  unfold checkBridge
  split at hSome
  · next attempt due hPhase =>
    split at hSome
    · next hOver =>
      rw [hPhase]
      exact ⟨attempt, due, rfl, if_pos hOver⟩
    · cases hSome
  · cases hSome

/-- A wait that is not over is within its time. -/
theorem le_due_of_none {attempt : Nat} {due : Duration} (hNone : feed.overdue? = none)
    (hPhase : feed.phase = .bridging attempt due) : feed.now ≤ due := by
  have hBefore : ¬ due ≤ feed.now := by simpa [overdue?, hPhase] using hNone
  exact Nat.le_of_not_le hBefore

theorem Stage.later {now : Duration} (hStage : Stage Ended config spent feed)
    (hNone : (feed.later now).overdue? = none) : Stage Ended config spent (feed.later now) :=
  hStage.transfer rfl rfl (fun _ _ hPhase _ => le_due_of_none hNone hPhase) fun _ _ hEnded => hEnded

/-- When the time is over in which a snapshot was to be bridged, its attempt is spent. -/
theorem Stands.tick (hStands : Stands Ended config spent feed) (now : Duration) :
    Stands Ended config (spent + (feed.later now).overdue?.toList.length)
      (feed.later now).checkBridge := by
  obtain ⟨hConfig, hFetches, hStage⟩ := hStands
  cases hOver : (feed.later now).overdue? with
  | none =>
    rw [checkBridge_of_none hOver]
    exact ⟨hConfig, hFetches, hStage.later hOver⟩
  | some verdict =>
    obtain ⟨attempt, due, hWaits, hNext⟩ := checkBridge_of_some hOver
    rw [hNext]
    cases hStage with
    | bridging hPhase hState _ hLeft =>
      obtain ⟨rfl, -⟩ := Phase.bridging.inj (hPhase.symm.trans hWaits)
      refine stands_proceed hConfig (hFetches.trans (Nat.min_eq_left hLeft)) ?_ hLeft
      simp [adopt, Session.onBridgeTimeout, Synchronizer.onBridgeTimeout, later, hState]
    | fetching hPhase | live hPhase | exhausted hPhase | ended hPhase =>
      exact absurd (hPhase.symm.trans hWaits) (by simp)

theorem later_self (feed : Feed) : feed.later feed.now = feed := by simp [later]

theorem Stands.checkBridge (hStands : Stands Ended config spent feed) :
    Stands Ended config (spent + feed.overdue?.toList.length) feed.checkBridge := by
  simpa only [later_self] using hStands.tick feed.now

/-! ## Steps -/

theorem Stage.left (hStage : Stage Ended config spent feed) (hOpen : feed.isOver = false) :
    spent < config.maxSnapshotAttempts := by
  cases hStage with
  | fetching _ _ hLeft | bridging _ _ _ hLeft | live _ _ hLeft | ended _ _ hLeft => exact hLeft
  | exhausted hPhase => simp [isOver, hPhase] at hOpen

theorem proceed_of_synced (hState : feed.session.sync.state = .synced) (attempts : Nat) :
    feed.proceed attempts = { feed with phase := .live } :=
  if_pos hState

/-- What a frame makes of a feed, from what it makes of the session. -/
theorem onFrame_cases (feed : Feed) (text : String) :
    ∃ next effects, next = feed.session.after (.frame text) ∧
      ((∃ error, feed.session.refusal? (.frame text) = some error ∧
          feed.onFrame text = (feed.adopt next effects).finish (some error)) ∨
        (feed.session.refusal? (.frame text) = none ∧
          feed.onFrame text = match feed.phase with
            | .bridging attempt _ =>
              if next.sync.state = .awaitingBridge then feed.adopt next effects
              else (feed.adopt next effects).proceed attempt
            | _ => feed.adopt next effects)) := by
  obtain ⟨effects, hFrame⟩ := feed.session.onFrame_outcome text
  refine ⟨_, effects, rfl, ?_⟩
  unfold onFrame
  rw [hFrame]
  generalize feed.session.refusal? (.frame text) = refusal
  generalize feed.session.after (.frame text) = next
  cases refusal with
  | some error => exact .inl ⟨error, rfl, rfl⟩
  | none => exact .inr ⟨rfl, by cases hPhase : feed.phase <;> simp [adopt, hPhase]⟩

/-- What refused the frame. -/
def RefusedBy (session : Session) (call : Call) (failure : Option FeedError) : Prop :=
  ∃ error, failure = some error ∧ session.refusal? call = some error

/-- A frame that a session takes which has not ended. -/
theorem Stands.onFrame (hStands : Stands Ended config spent feed) (hOpen : feed.isOver = false)
    (text : String) :
    Stands (RefusedBy feed.session (.frame text)) config
      (spent + (feed.outrun? text).toList.length) (feed.onFrame text) := by
  obtain ⟨hConfig, hFetches, hStage⟩ := hStands
  obtain ⟨next, effects, hNext, ⟨error, hRefused, hFrame⟩ | ⟨hGoes, hFrame⟩⟩ :=
    feed.onFrame_cases text
  · have hNone : feed.outrun? text = none := by
      unfold outrun?
      rw [Session.outruns_of_refused hRefused]
      split <;> rfl
    rw [hFrame, hNone]
    exact ⟨hConfig, hFetches, .ended rfl ⟨error, rfl, hRefused⟩ (hStage.left hOpen)⟩
  · have hStates := Session.state_after_frame hGoes
    rw [hFrame]
    rw [← hNext] at hStates
    cases hStage with
    | fetching hPhase hState hLeft =>
      have hNone : feed.outrun? text = none := by rw [outrun?, hPhase]
      rw [hNone, hPhase]
      rcases hStates with ⟨-, hOther, -⟩ | ⟨-, hSame | ⟨hOther, -⟩⟩
      · exact absurd (hState.symm.trans hOther) (by decide)
      · exact ⟨hConfig, hFetches, .fetching hPhase (hSame.trans hState) hLeft⟩
      · exact absurd (hState.symm.trans hOther) (by decide)
    | bridging hPhase hState hDue hLeft =>
      rw [outrun?, hPhase]
      rcases hStates with ⟨hStale, -, hConnecting⟩ | ⟨hFits, hSame | ⟨-, hSynced⟩⟩
      · simp only [hConnecting, hStale, if_true]
        exact stands_proceed hConfig (hFetches.trans (Nat.min_eq_left hLeft)) hConnecting hLeft
      · simp only [hSame.trans hState, hFits, if_true]
        exact ⟨hConfig, hFetches, .bridging hPhase (hSame.trans hState) hDue hLeft⟩
      · simp only [hSynced, hFits]
        rw [if_neg (by simp), proceed_of_synced hSynced]
        exact ⟨hConfig, hFetches, .live rfl hSynced hLeft⟩
    | live hPhase hState hLeft =>
      have hNone : feed.outrun? text = none := by rw [outrun?, hPhase]
      rw [hNone, hPhase]
      rcases hStates with ⟨-, hOther, -⟩ | ⟨-, hSame | ⟨hOther, -⟩⟩
      · exact absurd (hState.symm.trans hOther) (by decide)
      · exact ⟨hConfig, hFetches, .live hPhase (hSame.trans hState) hLeft⟩
      · exact absurd (hState.symm.trans hOther) (by decide)
    | exhausted hPhase | ended hPhase => simp [isOver, hPhase] at hOpen

/-- The snapshot that a feed asked for. -/
theorem Stands.onSnapshot (hStands : Stands Ended config spent feed)
    (hAsked : feed.phase = .fetching attempts) (taken : Snapshot) :
    Stands (RefusedBy feed.session (.snapshot taken)) config
      (spent + (feed.verdict? (.snapshot (.ok taken))).toList.length)
      (feed.onSnapshot attempts taken) := by
  obtain ⟨hConfig, hFetches, hStage⟩ := hStands
  cases hStage with
  | bridging hPhase | live hPhase | exhausted hPhase | ended hPhase =>
    exact absurd (hPhase.symm.trans hAsked) (by simp)
  | fetching hPhase hState hLeft =>
    obtain rfl : spent + 1 = attempts := by simpa using hPhase.symm.trans hAsked
    have hAll : feed.fetches = spent + 1 := hFetches.trans (Nat.min_eq_left hLeft)
    have hStates := Synchronizer.state_onSnapshot hState taken
    have hRefusal : ∀ error, (feed.session.sync.onSnapshot taken).1 = .error error →
        feed.session.refusal? (.snapshot taken) = failureOf? error := by
      intro error hError
      simp only [Session.refusal?, hError]
    simp only [verdict?, hPhase, Feed.onSnapshot, Session.onSnapshot]
    cases hSnapshot : feed.session.sync.onSnapshot taken with | mk answer next =>
    rw [hSnapshot] at hStates
    dsimp only at hStates
    rcases hStates with ⟨rfl, hWaits | hSynced⟩ | ⟨error, rfl, hStale⟩
    · rw [hWaits]
      exact ⟨hConfig, hFetches, .bridging rfl hWaits (Nat.le_add_right _ _) hLeft⟩
    · rw [hSynced]
      dsimp only
      rw [proceed_of_synced hSynced]
      exact ⟨hConfig, hFetches, .live rfl hSynced hLeft⟩
    · have hRefused := hRefusal error (by rw [hSnapshot])
      by_cases hKind : error.isStale = true
      · simp only [outrun, hKind, if_true]
        exact stands_proceed hConfig hAll (hStale hKind) hLeft
      · rw [failureOf?, if_neg hKind] at hRefused
        simp only [outrun, hKind]
        exact ⟨hConfig, hFetches, .ended rfl ⟨.desync error, rfl, hRefused⟩ hLeft⟩

theorem phase_proceed_ne (feed : Feed) (attempts attempt : Nat) (due : Duration) :
    (feed.proceed attempts).phase ≠ .bridging attempt due := by
  unfold proceed
  split
  · simp
  · split <;> simp [finish]

/-- Where the time is over and an event comes, one attempt is spent. -/
theorem spent_frame (feed : Feed) (text : String) :
    (feed.verdict? (.feed (.frame text))).toList.length =
      feed.overdue?.toList.length + (feed.checkBridge.outrun? text).toList.length := by
  rw [verdict?]
  cases hOver : feed.overdue? with
  | none => simp [checkBridge_of_none hOver]
  | some verdict =>
    obtain ⟨attempt, due, -, hNext⟩ := checkBridge_of_some hOver
    have hNone : feed.checkBridge.outrun? text = none := by
      rw [hNext]
      exact outrun?_eq_none (phase_proceed_ne _ _) text
    simp [hNone]

theorem Stands.of_open (hStands : Stands Ended config spent feed) (hOpen : feed.isOver = false)
    (Other : Option FeedError → Prop) : Stands Other config spent feed := by
  refine ⟨hStands.ofConfig, hStands.fetches,
    hStands.stage.transfer rfl rfl (fun _ _ _ hDue => hDue) ?_⟩
  intro failure hPhase
  simp [isOver, hPhase] at hOpen

theorem Stands.finish (hStands : Stands Ended config spent feed) (hOpen : feed.isOver = false)
    {failure : Option FeedError} {Other : Option FeedError → Prop} (hEnded : Other failure) :
    Stands Other config spent (feed.finish failure) :=
  ⟨hStands.ofConfig, hStands.fetches, .ended rfl hEnded (hStands.stage.left hOpen)⟩

/-- What the answer to a fetch makes of a feed that has not ended. -/
theorem Stands.step_snapshot (hStands : Stands Ended config spent feed)
    (hOpen : feed.isOver = false) (result : Except FeedError Snapshot) :
    Stands (Ends feed (.snapshot result)) config
      (spent + (feed.verdict? (.snapshot result)).toList.length)
      (feed.step (.snapshot result)) := by
  cases result with
  | error error =>
    cases hPhase : feed.phase with
    | fetching attempt =>
      simp only [Feed.step, hPhase]
      exact hStands.finish hOpen (.notFetched attempt error hPhase)
    | bridging | live | ended =>
      simp only [Feed.step, hPhase]
      exact hStands.of_open hOpen _
  | ok taken =>
    cases hPhase : feed.phase with
    | fetching attempt =>
      have hNext := hStands.onSnapshot hPhase taken
      simp only [Feed.step, hPhase]
      refine ⟨hNext.ofConfig, hNext.fetches, hNext.stage.mono ?_⟩
      rintro failure ⟨error, rfl, hRefused⟩
      exact .snapshot taken error hRefused
    | bridging | live | ended =>
      simp only [Feed.step, verdict?, hPhase]
      exact hStands.of_open hOpen _

/-- What an input makes of a feed that has not ended. -/
theorem Stands.step_of_open (hStands : Stands Ended config spent feed)
    (hOpen : feed.isOver = false) (input : Input) :
    Stands (Ends feed input) config (spent + (feed.verdict? input).toList.length)
      (feed.step input) := by
  have hChecked := (hStands.of_open hOpen (Ends feed input)).checkBridge
  cases input with
  | time now => exact (hStands.of_open hOpen _).tick now
  | snapshot result => exact hStands.step_snapshot hOpen result
  | feed input =>
    cases input with
    | cancelled =>
      rw [Feed.step, hOpen]
      exact hStands.finish hOpen .cancelled
    | lost error =>
      dsimp only [Feed.step]
      split
      · exact hChecked
      · next hLeft => exact hChecked.finish (by simpa using hLeft) (.lost error)
    | frame text =>
      rw [spent_frame, ← Nat.add_assoc]
      dsimp only [Feed.step]
      split
      · next hOver =>
        rw [outrun?_eq_none (ne_bridging_of_over hOver) text]
        exact hChecked
      · next hLeft =>
        have hNext := hChecked.onFrame (by simpa using hLeft) text
        refine ⟨hNext.ofConfig, hNext.fetches, hNext.stage.mono ?_⟩
        rintro failure ⟨error, rfl, hRefused⟩
        exact .frame text error hRefused

/-- Nothing happens to a feed that has ended, but that time goes on. -/
theorem step_of_over (hOver : feed.isOver = true) (input : Input) :
    feed.verdict? input = none ∧ ∃ now, feed.step input = feed.later now := by
  obtain ⟨failure, hPhase⟩ : ∃ failure, feed.phase = .ended failure := by
    unfold isOver at hOver
    split at hOver
    · next failure hPhase => exact ⟨failure, hPhase⟩
    · cases hOver
  have hIdle : ∀ now, (feed.later now).overdue? = none :=
    fun now => overdue?_eq_none (ne_bridging_of_over hOver)
  have hNone : feed.overdue? = none := overdue?_eq_none (ne_bridging_of_over hOver)
  have hChecked : feed.checkBridge = feed := checkBridge_of_none hNone
  cases input with
  | time now => exact ⟨hIdle now, now, checkBridge_of_none (hIdle now)⟩
  | snapshot result =>
    refine ⟨?_, feed.now, ?_⟩
    · cases result <;> simp [verdict?, hPhase]
    · rw [later_self]
      simp [Feed.step, hPhase]
  | feed input =>
    refine ⟨?_, feed.now, ?_⟩
    · cases input <;> simp [verdict?, hNone, outrun?, hPhase]
    · rw [later_self]
      cases input <;> simp [Feed.step, hChecked, hOver]

/-- **Every input keeps to where a feed may stand.** -/
theorem Stands.step (hStands : Stands Ended config spent feed) (input : Input) :
    Stands (fun failure => Ended failure ∨ feed.isOver = false ∧ Ends feed input failure) config
      (spent + (feed.verdict? input).toList.length) (feed.step input) := by
  cases hOver : feed.isOver with
  | false =>
    have hNext := hStands.step_of_open hOver input
    exact ⟨hNext.ofConfig, hNext.fetches, hNext.stage.mono fun _ hEnds => .inr ⟨rfl, hEnds⟩⟩
  | true =>
    obtain ⟨hNone, now, hNext⟩ := step_of_over hOver input
    have hIdle : (feed.later now).overdue? = none :=
      overdue?_eq_none (ne_bridging_of_over hOver)
    rw [hNone, hNext]
    exact ⟨hStands.ofConfig, hStands.fetches, (hStands.stage.later hIdle).mono fun _ => .inl⟩

end Feed

end Depth

end MarketGateway
