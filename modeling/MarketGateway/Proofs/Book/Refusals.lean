import MarketGateway.Proofs.Book.Phases

/-!
# What a refusal leaves behind

A synchronizer that refuses an event or a snapshot is either cleared (`Synchronizer.Cleared`), or the
snapshot was stale and the events that the next one may need are kept (`Synchronizer.Kept`): the
event that starts too late and all behind it, in their order. `Synchronizer.Leaves` says which of the
two goes with which error. Every refusal keeps to it but one: a snapshot that comes while the replica
is in step is refused and changes nothing (`refusal_leaves`).

A replay is refused by the first event that is refused on its way. Up to that event the synchronizer
waits with the replica of the snapshot, which discards events and changes in nothing
(`replay_of_waiting`), or it is in step, where no snapshot turns out stale (`replay_of_synced`).
-/

namespace MarketGateway.Book.Synchronizer

/-- Nothing is left of the session. -/
structure Cleared (sync : Synchronizer) : Prop where
  state : sync.state = .disconnected
  book : sync.book = none
  buffer : sync.buffer = []

/-- The events in front are old for a snapshot, and the next one starts too late for it. -/
structure Misses (snapshotId : UInt64) (old : List DiffEvent) (offending : DiffEvent) : Prop where
  old : ∀ event ∈ old, event.lastUpdateId ≤ snapshotId
  last : snapshotId < offending.lastUpdateId
  first : nextId snapshotId < offending.firstUpdateId

/-- The replica is dropped, and of the events that were given those from the first one on that the
snapshot misses are buffered. -/
structure Kept (snapshotId firstUpdateId : UInt64) (given : List DiffEvent) (sync : Synchronizer) :
    Prop where
  state : sync.state = .connecting
  book : sync.book = none
  buffer : ∃ old offending rest, given = old ++ offending :: rest ∧
    Misses snapshotId old offending ∧ offending.firstUpdateId = firstUpdateId ∧
    sync.buffer = offending :: rest

/-- What an error leaves of a synchronizer that was to take the given events. -/
def Leaves (given : List DiffEvent) (next : Synchronizer) : SyncError → Prop
  | .staleSnapshot snapshotId firstUpdateId => next.Kept snapshotId firstUpdateId given
  | .bufferOverflow _ | .unexpectedInput _ _ | .book _ => next.Cleared

variable {symbol : String} {capacity : Nat} {snapshots : List Snapshot} {heard : List DiffEvent}
  {sync : Synchronizer} {book : Replica} {error : SyncError}

theorem cleared_reset (sync : Synchronizer) : sync.reset.Cleared := ⟨rfl, rfl, rfl⟩

theorem Holds.cleared (hSync : sync.Holds symbol capacity snapshots heard)
    (hState : sync.state = .disconnected) : sync.Cleared := by
  cases hSync <;> first | exact ⟨rfl, rfl, rfl⟩ | cases hState

/-! ## Single events -/

theorem Holds.ingest_leaves (hSync : sync.Holds symbol capacity snapshots heard)
    {event : DiffEvent} (hError : (sync.ingest event).1 = .error error) :
    (sync.ingest event).2.Leaves [event] error := by
  have hSpec := ingest_spec sync event
  generalize sync.ingest event = outcome at hSpec hError
  cases hSpec with
  | stopped hState =>
    cases hError
    exact hSync.cleared hState
  | overflow | bridgeRefused | refused =>
    cases hError
    exact cleared_reset sync
  | bookless hState hBook =>
    obtain ⟨snapshot, -, rfl⟩ := hSync.of_waiting hState
    cases hBook
  | stale hState _ hLast hFirst =>
    cases hError
    obtain ⟨snapshot, -, rfl⟩ := hSync.of_waiting hState
    exact ⟨rfl, rfl, [], event, [], rfl, ⟨by simp, hLast, hFirst⟩, rfl, rfl⟩
  | buffered | discarded | bridged | applied => cases hError

/-- An event for which the snapshot is stale leaves a synchronizer that connects again. -/
theorem ingest_connecting {event : DiffEvent} {snapshotId firstUpdateId : UInt64}
    (hError : (sync.ingest event).1 = .error (.staleSnapshot snapshotId firstUpdateId)) :
    (sync.ingest event).2.state = .connecting := by
  have hSpec := ingest_spec sync event
  generalize sync.ingest event = outcome at hSpec hError
  cases hSpec with
  | stale => rfl
  | stopped | overflow | buffered | bookless | discarded | bridged | bridgeRefused | applied
  | refused => cases hError

/-! ## Replays -/

/-- By induction on the events: each one is applied, or the replay is over. -/
theorem replay_of_synced {events : List DiffEvent} (hState : sync.state = .synced)
    (hError : (sync.replay events).1 = .error error) :
    error.isStale = false ∧ (sync.replay events).2.Cleared := by
  induction events generalizing sync with
  | nil => cases hError
  | cons event rest ih =>
    have hSpec := ingest_spec sync event
    rw [replay] at hError ⊢
    generalize sync.ingest event = outcome at hSpec hError ⊢
    cases hSpec with
    | applied => exact ih hState hError
    | refused =>
      cases hError
      exact ⟨rfl, cleared_reset sync⟩
    | stopped hOther | overflow hOther | buffered hOther | bookless hOther | discarded hOther
    | stale hOther | bridged hOther | bridgeRefused hOther =>
      rw [hState] at hOther
      cases hOther

/-- An old event more makes no difference to what is kept. -/
theorem Kept.cons {snapshotId firstUpdateId : UInt64} {given : List DiffEvent} {event : DiffEvent}
    (hKept : sync.Kept snapshotId firstUpdateId given) (hOld : event.lastUpdateId ≤ snapshotId) :
    sync.Kept snapshotId firstUpdateId (event :: given) := by
  obtain ⟨hState, hBook, old, offending, rest, rfl, hMisses, hFirst, hBuffer⟩ := hKept
  have hOldAll : ∀ other ∈ event :: old, other.lastUpdateId ≤ snapshotId :=
    List.forall_mem_cons.mpr ⟨hOld, hMisses.old⟩
  exact ⟨hState, hBook, event :: old, offending, rest, rfl, ⟨hOldAll, hMisses.last, hMisses.first⟩,
    hFirst, hBuffer⟩

/-- By induction on the events: while the replica waits, those that are not refused are old, and the
first one that is not old ends the wait. -/
theorem replay_of_waiting {events : List DiffEvent} (hState : sync.state = .awaitingBridge)
    (hBook : sync.book = some book) (hBuffer : sync.buffer = [])
    (hError : (sync.replay events).1 = .error error) :
    (∃ firstUpdateId, error = .staleSnapshot book.lastUpdateId firstUpdateId ∧
      (sync.replay events).2.Kept book.lastUpdateId firstUpdateId events) ∨
    (error.isStale = false ∧ (sync.replay events).2.Cleared) := by
  induction events with
  | nil => cases hError
  | cons event rest ih =>
    have hSpec := ingest_spec sync event
    rw [replay] at hError ⊢
    generalize sync.ingest event = outcome at hSpec hError ⊢
    cases hSpec with
    | discarded _ hSame hOld =>
      obtain rfl := Option.some.inj (hSame.symm.trans hBook)
      rcases ih hError with ⟨firstUpdateId, hStale, hKept⟩ | hCleared
      · exact .inl ⟨firstUpdateId, hStale, hKept.cons hOld⟩
      · exact .inr hCleared
    | stale _ hSame hLast hFirst =>
      cases hError
      obtain rfl := Option.some.inj (hSame.symm.trans hBook)
      refine .inl ⟨event.firstUpdateId, rfl, ?_⟩
      simp only [SyncError.isStale, if_true, hBuffer]
      exact ⟨rfl, rfl, [], event, rest, rfl, ⟨by simp, hLast, hFirst⟩, rfl, rfl⟩
    | bridged => exact .inr (replay_of_synced rfl hError)
    | bridgeRefused =>
      cases hError
      exact .inr ⟨rfl, cleared_reset sync⟩
    | bookless _ hNone => cases hNone.symm.trans hBook
    | stopped hOther | overflow hOther | buffered hOther | applied hOther | refused _ hOther =>
      rw [hState] at hOther
      cases hOther

/-! ## Snapshots -/

theorem leaves_of_cleared {given : List DiffEvent} (hOther : error.isStale = false)
    (hCleared : sync.Cleared) : sync.Leaves given error := by
  cases error with
  | staleSnapshot => cases hOther
  | bufferOverflow | unexpectedInput | book => exact hCleared

theorem onSnapshot_of_synced (snapshot : Snapshot) (hState : sync.state = .synced) :
    sync.onSnapshot snapshot = (.error (.unexpectedInput .snapshot .synced), sync) := by
  simp [onSnapshot, hState]

/-- A snapshot that turns out stale leaves a synchronizer that connects again. -/
theorem onSnapshot_connecting {snapshot : Snapshot} {snapshotId firstUpdateId : UInt64}
    (hError : (sync.onSnapshot snapshot).1 = .error (.staleSnapshot snapshotId firstUpdateId)) :
    (sync.onSnapshot snapshot).2.state = .connecting := by
  by_cases hOpen : sync.state = .connecting ∨ sync.state = .awaitingBridge
  · rw [onSnapshot_of_open snapshot hOpen] at hError ⊢
    rcases replay_of_waiting rfl rfl rfl hError with ⟨_, -, hKept⟩ | ⟨hOther, -⟩
    · exact hKept.state
    · cases hOther
  · rw [onSnapshot, if_neg hOpen] at hError
    cases hError

theorem onSnapshot_leaves (hSync : sync.Holds symbol capacity snapshots heard)
    (hOut : sync.state ≠ .synced) {snapshot : Snapshot}
    (hError : (sync.onSnapshot snapshot).1 = .error error) :
    (sync.onSnapshot snapshot).2.Leaves sync.buffer error := by
  by_cases hOpen : sync.state = .connecting ∨ sync.state = .awaitingBridge
  · rw [onSnapshot_of_open snapshot hOpen] at hError ⊢
    rcases replay_of_waiting rfl rfl rfl hError with ⟨firstUpdateId, rfl, hKept⟩ | ⟨hOther, hCleared⟩
    · exact hKept
    · exact leaves_of_cleared hOther hCleared
  · have hState : sync.state = .disconnected := by
      cases hState : sync.state with
      | disconnected => rfl
      | connecting => exact absurd (.inl hState) hOpen
      | awaitingBridge => exact absurd (.inr hState) hOpen
      | synced => exact absurd hState hOut
    rw [onSnapshot, if_neg hOpen] at hError ⊢
    cases hError
    exact hSync.cleared hState

/-- **A refusal clears the synchronizer or keeps what the next snapshot needs.** After any moves: an
event or a snapshot that is refused leaves a synchronizer that is disconnected, without a replica and
with an empty buffer, unless the error is that the snapshot is stale. Then it connects again, without
a replica, and its buffer holds the event that came too late and all events behind it, in their
order; the events before it are those that the snapshot made old. The one exception is a snapshot
that comes while the replica is in step: it is refused and nothing changes. -/
theorem refusal_leaves (symbol : String) (capacity : Nat) (moves : List Move) :
    let sync := (new symbol capacity).run moves
    (∀ event error, (sync.ingest event).1 = .error error →
      (sync.ingest event).2.Leaves [event] error) ∧
    (sync.state ≠ .synced → ∀ snapshot error, (sync.onSnapshot snapshot).1 = .error error →
      (sync.onSnapshot snapshot).2.Leaves sync.buffer error) ∧
    (sync.state = .synced → ∀ snapshot,
      sync.onSnapshot snapshot = (.error (.unexpectedInput .snapshot .synced), sync)) := by
  obtain ⟨⟨snapshots, heard, hSync⟩, -⟩ := holds_and_logged_run symbol capacity moves
  exact ⟨fun _ _ => hSync.ingest_leaves, fun hOut _ _ => onSnapshot_leaves hSync hOut,
    fun hState snapshot => onSnapshot_of_synced snapshot hState⟩

/-- Three events of which the second one starts too late for a snapshot at 100. -/
def missedMoves : List Move :=
  [.begin, .ingest ⟨98, 100, 97, 1, [], []⟩, .ingest ⟨110, 112, 109, 2, [⟨"10", "2"⟩], []⟩,
    .ingest ⟨113, 115, 112, 3, [], []⟩]

/-- The replay is refused at the second event, and that one and the third stay. -/
theorem refusal_leaves_missedMoves :
    (((new "BTCUSDT" 3).run missedMoves).onSnapshot ⟨100, [], []⟩).1 =
      .error (.staleSnapshot 100 110) ∧
    (((new "BTCUSDT" 3).run missedMoves).onSnapshot ⟨100, [], []⟩).2.Kept 100 110
      ((new "BTCUSDT" 3).run missedMoves).buffer ∧
    (((new "BTCUSDT" 3).run missedMoves).onSnapshot ⟨100, [], []⟩).2.buffer =
      [⟨110, 112, 109, 2, [⟨"10", "2"⟩], []⟩, ⟨113, 115, 112, 3, [], []⟩] :=
  ⟨by decide +kernel,
    (refusal_leaves "BTCUSDT" 3 missedMoves).2.1 (by decide +kernel) ⟨100, [], []⟩
      (.staleSnapshot 100 110) (by decide +kernel),
    by decide +kernel⟩

/-- A snapshot behind the event that brought the replica in step is refused, and the replica stays. -/
theorem snapshot_in_step_changes_nothing :
    let sync := (new "BTCUSDT" 4).run
      [.begin, .snapshot ⟨100, [⟨"10", "1"⟩], []⟩, .ingest ⟨101, 102, 100, 1, [], []⟩]
    (sync.onSnapshot ⟨104, [], []⟩).1 = .error (.unexpectedInput .snapshot .synced) ∧
    (sync.onSnapshot ⟨104, [], []⟩).2.state = .synced ∧
    (sync.onSnapshot ⟨104, [], []⟩).2.book ≠ none ∧
    ¬ (sync.onSnapshot ⟨104, [], []⟩).2.Leaves sync.buffer
      (.unexpectedInput .snapshot .synced) := by
  refine ⟨by decide +kernel, by decide +kernel, by decide +kernel, ?_⟩
  intro hCleared
  exact absurd hCleared.state (by decide +kernel)

end MarketGateway.Book.Synchronizer
