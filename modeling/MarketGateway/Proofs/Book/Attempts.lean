import MarketGateway.Proofs.Book.Refusals
import MarketGateway.Proofs.Book.Replay

/-!
# Snapshots that come to nothing

A snapshot may turn out stale, for an event that is replayed or for a later one, or nothing bridges
it until the wait is given up (`Synchronizer.Fails`). While it waits the synchronizer discards old
events and changes in nothing, so such an attempt takes old events out of the stream, from its start
on, and leaves the others in the buffer (`Fails.buffered`). A snapshot that is not before the failed
one discards the same events, and the run ends as if the failed one had never come
(`run_eq_of_failed_attempt`).
-/

namespace MarketGateway.Book.Synchronizer

variable {sync : Synchronizer} {book : Replica} {snapshot : Snapshot}
  {events before during : List DiffEvent} {attempt : List Move}

/-! ## Waiting for a bridge -/

theorem ingest_of_old {event : DiffEvent} (hState : sync.state = .awaitingBridge)
    (hBook : sync.book = some book) (hOld : event.lastUpdateId ≤ book.lastUpdateId) :
    sync.ingest event = (.ok .discarded, sync) := by
  simp only [ingest, hState, tryBridge, hBook, if_pos hOld]

theorem run_ingest_of_old (hState : sync.state = .awaitingBridge) (hBook : sync.book = some book)
    (hOld : ∀ event ∈ events, event.lastUpdateId ≤ book.lastUpdateId) :
    sync.run (events.map .ingest) = sync := by
  induction events with
  | nil => rfl
  | cons event rest ih =>
    obtain ⟨hEvent, hRest⟩ := List.forall_mem_cons.mp hOld
    rw [List.map_cons, run_cons, step, ingest_of_old hState hBook hEvent]
    exact ih hRest

/-- The session is over, or the replica is in step. -/
def Decided (sync : Synchronizer) : Prop := sync.state = .synced ∨ sync.state = .disconnected

theorem Decided.ingest (hDecided : sync.Decided) (event : DiffEvent) :
    (sync.ingest event).2.Decided := by
  have hSpec := ingest_spec sync event
  generalize sync.ingest event = outcome at hSpec
  cases hSpec with
  | stopped hState => exact .inr hState
  | overflow | bridgeRefused | refused => exact .inr rfl
  | bridged => exact .inl rfl
  | applied hState => exact .inl hState
  | discarded | bookless => exact hDecided
  | buffered hState | stale hState => simp [Decided, hState] at hDecided

theorem Decided.run (hDecided : sync.Decided) (events : List DiffEvent) :
    (sync.run (events.map .ingest)).Decided := by
  induction events generalizing sync with
  | nil => exact hDecided
  | cons event rest ih => exact ih (hDecided.ingest event)

/-- How events end a wait that the given replica keeps, or do not. -/
inductive Awaited (sync : Synchronizer) (book : Replica) (events : List DiffEvent) :
    Synchronizer → Prop
  | waits (hOld : ∀ event ∈ events, event.lastUpdateId ≤ book.lastUpdateId) :
      Awaited sync book events sync
  | stale {old kept : List DiffEvent} (hEvents : events = old ++ kept)
      (hOld : ∀ event ∈ old, event.lastUpdateId ≤ book.lastUpdateId) :
      Awaited sync book events
        { sync with book := none, state := .connecting, buffer := sync.buffer ++ kept }
  | decided {next : Synchronizer} (hDecided : next.Decided) : Awaited sync book events next

theorem Awaited.cons {event : DiffEvent} {next : Synchronizer}
    (hOld : event.lastUpdateId ≤ book.lastUpdateId) (hAwaited : Awaited sync book events next) :
    Awaited sync book (event :: events) next := by
  cases hAwaited with
  | waits hRest => exact .waits (List.forall_mem_cons.mpr ⟨hOld, hRest⟩)
  | stale hEvents hRest =>
    exact .stale (by rw [hEvents, List.cons_append]) (List.forall_mem_cons.mpr ⟨hOld, hRest⟩)
  | decided hDecided => exact .decided hDecided

/-- By induction on the events: as long as they are old the wait goes on. -/
theorem run_awaited (hState : sync.state = .awaitingBridge) (hBook : sync.book = some book)
    (hFit : sync.buffer.length + events.length ≤ sync.capacity) :
    Awaited sync book events (sync.run (events.map .ingest)) := by
  induction events with
  | nil => exact .waits (by simp)
  | cons event rest ih =>
    rw [List.length_cons] at hFit
    have hSpec := ingest_spec sync event
    rw [List.map_cons, run_cons, step]
    generalize sync.ingest event = outcome at hSpec
    cases hSpec with
    | discarded _ hSame hOld =>
      obtain rfl := Option.some.inj (hSame.symm.trans hBook)
      exact (ih (by omega)).cons hOld
    | stale =>
      have hRoom : (sync.buffer ++ [event]).length + rest.length ≤ sync.capacity := by
        rw [List.length_append, List.length_singleton]
        omega
      have hBuffered := @run_ingest_of_connecting { sync with
        book := none, state := .connecting, buffer := sync.buffer ++ [event] } rest rfl hRoom
      have hStale : Awaited sync book (event :: rest) { sync with
          book := none, state := .connecting, buffer := sync.buffer ++ event :: rest } :=
        .stale (List.nil_append _).symm (by simp)
      rw [hBuffered]
      simpa using hStale
    | bridged => exact .decided (Decided.run (.inl rfl) rest)
    | bridgeRefused => exact .decided (Decided.run (.inr rfl) rest)
    | bookless _ hNone => cases hNone.symm.trans hBook
    | stopped hOther | overflow hOther | buffered hOther | applied hOther | refused _ hOther =>
      rw [hState] at hOther
      cases hOther

/-! ## Attempts that fail -/

/-- How an attempt with a snapshot comes to nothing, with the events during it: the snapshot is
stale for an event that is replayed, or for one that comes later, or the wait is given up. -/
inductive Fails (sync : Synchronizer) (snapshot : Snapshot) : List DiffEvent → List Move → Prop
  | stale {snapshotId firstUpdateId : UInt64}
      (hAnswer : (sync.onSnapshot snapshot).1 = .error (.staleSnapshot snapshotId firstUpdateId)) :
      Fails sync snapshot [] [.snapshot snapshot]
  | staleLater {events : List DiffEvent} {event : DiffEvent} {snapshotId firstUpdateId : UInt64}
      (hAnswer : ((sync.run (.snapshot snapshot :: events.map .ingest)).ingest event).1 =
        .error (.staleSnapshot snapshotId firstUpdateId)) :
      Fails sync snapshot (events ++ [event])
        (.snapshot snapshot :: (events ++ [event]).map .ingest)
  | timedOut {events : List DiffEvent}
      (hWaits : (sync.run (.snapshot snapshot :: events.map .ingest)).state = .awaitingBridge) :
      Fails sync snapshot events (.snapshot snapshot :: events.map .ingest ++ [.bridgeTimeout])

/-- The attempt is the wait of a synchronizer that had the snapshot before any event. -/
theorem attempt_awaited (snapshot : Snapshot) (hFit : (before ++ during).length ≤ sync.capacity) :
    Awaited (sync.begin.withSnapshot snapshot) (.ofSnapshot sync.symbol snapshot) (before ++ during)
      ((sync.run (.begin :: before.map .ingest)).run (.snapshot snapshot :: during.map .ingest)) := by
  have hWaits := @run_awaited (sync.begin.withSnapshot snapshot) _ (before ++ during) rfl rfl
    (by simpa [withSnapshot, begin] using hFit)
  rw [← run_append, run_snapshot_first snapshot hFit]
  exact hWaits

/-- What an attempt takes out of the stream is old for its snapshot; the rest waits in the buffer. -/
theorem Fails.buffered (hFit : (before ++ during).length ≤ sync.capacity)
    (hFails : (sync.run (.begin :: before.map .ingest)).Fails snapshot during attempt) :
    ∃ old kept, before ++ during = old ++ kept ∧
      (∀ event ∈ old, event.lastUpdateId ≤ snapshot.lastUpdateId) ∧
      sync.run (.begin :: before.map .ingest ++ attempt) = { sync.begin with buffer := kept } := by
  have hAwaited := attempt_awaited snapshot hFit
  -- A snapshot that is stale ends the wait with the events that it misses in the buffer.
  have hStale (hState : ((sync.run (.begin :: before.map .ingest)).run
      (.snapshot snapshot :: during.map .ingest)).state = .connecting) :
      ∃ old kept, before ++ during = old ++ kept ∧
        (∀ event ∈ old, event.lastUpdateId ≤ snapshot.lastUpdateId) ∧
        (sync.run (.begin :: before.map .ingest)).run (.snapshot snapshot :: during.map .ingest) =
          { sync.begin with buffer := kept } := by
    generalize (sync.run (.begin :: before.map .ingest)).run
      (.snapshot snapshot :: during.map .ingest) = next at hAwaited hState ⊢
    cases hAwaited with
    | waits => cases hState
    | stale hEvents hOld => exact ⟨_, _, hEvents, hOld, rfl⟩
    | decided hDecided => simp [Decided, hState] at hDecided
  rw [run_append]
  cases hFails with
  | stale hAnswer => exact hStale (onSnapshot_connecting hAnswer)
  | staleLater hAnswer =>
    refine hStale ?_
    rw [List.map_append, ← List.cons_append, run_append]
    exact ingest_connecting hAnswer
  | timedOut hWaits =>
    rw [run_append]
    generalize (sync.run (.begin :: before.map .ingest)).run
      (.snapshot snapshot :: during.map .ingest) = next at hAwaited hWaits ⊢
    cases hAwaited with
    | waits hOld => exact ⟨before ++ during, [], (List.append_nil _).symm, hOld, rfl⟩
    | stale => cases hWaits
    | decided hDecided => simp [Decided, hWaits] at hDecided

/-! ## The snapshot behind a failed one -/

theorem run_buffered (hFit : events.length ≤ sync.capacity) :
    sync.run (.begin :: events.map .ingest) = { sync.begin with buffer := events } :=
  @run_ingest_of_connecting sync.begin events rfl (by simpa [begin] using hFit)

/-- Events from the start on that are old for the snapshot might as well be missing. -/
theorem run_eq_of_old {old kept after : List DiffEvent}
    (hOld : ∀ event ∈ old, event.lastUpdateId ≤ snapshot.lastUpdateId)
    (hFit : (old ++ kept ++ after).length ≤ sync.capacity) :
    sync.run (.begin :: (old ++ kept).map .ingest ++ .snapshot snapshot :: after.map .ingest) =
      sync.run (.begin :: kept.map .ingest ++ .snapshot snapshot :: after.map .ingest) := by
  have hFitKept : (kept ++ after).length ≤ sync.capacity := by
    rw [List.append_assoc, List.length_append] at hFit
    omega
  have hDiscarded : (sync.begin.onSnapshot snapshot).2.run (old.map .ingest) =
      (sync.begin.onSnapshot snapshot).2 := run_ingest_of_old rfl rfl hOld
  rw [run_snapshot_first snapshot hFit, run_snapshot_first snapshot hFitKept, List.append_assoc]
  calc sync.run (.begin :: .snapshot snapshot :: (old ++ (kept ++ after)).map .ingest)
      = ((sync.begin.onSnapshot snapshot).2.run (old.map .ingest)).run
          ((kept ++ after).map .ingest) := by
        rw [List.map_append, ← run_append]
        rfl
    _ = sync.run (.begin :: .snapshot snapshot :: (kept ++ after).map .ingest) := by
        rw [hDiscarded]
        rfl

/-- **A failed attempt leaves no trace.** Of events that the buffer can hold some come before a
snapshot, some during the attempt with it, which fails, some between it and a snapshot that is not
before it, and the others behind that one. The run ends with the same synchronizer as if the first
snapshot had never come: the same state, replica, buffer and time. When the second snapshot comes, all
events are in the buffer in their order, except that some from the start on are gone which end at or
before the first snapshot. -/
theorem run_eq_of_failed_attempt (sync : Synchronizer) {early late : Snapshot}
    (hOrder : early.lastUpdateId ≤ late.lastUpdateId) {before during between after : List DiffEvent}
    {attempt : List Move} (hFit : (before ++ during ++ between ++ after).length ≤ sync.capacity)
    (hFails : (sync.run (.begin :: before.map .ingest)).Fails early during attempt) :
    sync.run (.begin :: before.map .ingest ++ attempt ++ between.map .ingest ++
        .snapshot late :: after.map .ingest) =
      sync.run (.begin :: (before ++ during ++ between).map .ingest ++
        .snapshot late :: after.map .ingest) ∧
    ∃ old kept, before ++ during ++ between = old ++ kept ∧
      (∀ event ∈ old, event.lastUpdateId ≤ early.lastUpdateId) ∧
      sync.run (.begin :: before.map .ingest ++ attempt ++ between.map .ingest) =
        { sync.begin with buffer := kept } := by
  have hFitAll : (before ++ during).length + between.length + after.length ≤ sync.capacity := by
    simpa only [List.length_append] using hFit
  obtain ⟨old, kept, hEvents, hOld, hAttempt⟩ := hFails.buffered (by omega)
  have hSplit : before ++ during ++ between = old ++ (kept ++ between) := by
    rw [hEvents, List.append_assoc]
  have hFitSplit : old.length + (kept ++ between).length + after.length ≤ sync.capacity := by
    rw [← List.length_append, ← hSplit, List.length_append]
    exact hFitAll
  have hRoom : kept.length + between.length ≤ sync.begin.capacity := by
    rw [List.length_append] at hFitSplit
    show kept.length + between.length ≤ sync.capacity
    omega
  have hBetween : sync.run (.begin :: before.map .ingest ++ attempt ++ between.map .ingest) =
      { sync.begin with buffer := kept ++ between } := by
    rw [run_append, hAttempt]
    exact run_ingest_of_connecting rfl hRoom
  refine ⟨?_, old, kept ++ between, hSplit, hOld, hBetween⟩
  have hOldLate : ∀ event ∈ old, event.lastUpdateId ≤ late.lastUpdateId :=
    fun event hEvent => UInt64.le_trans (hOld event hEvent) hOrder
  calc sync.run (.begin :: before.map .ingest ++ attempt ++ between.map .ingest ++
          .snapshot late :: after.map .ingest)
      = sync.run (.begin :: (kept ++ between).map .ingest ++
          .snapshot late :: after.map .ingest) := by
        rw [run_append, hBetween, run_append, run_buffered (by rw [List.length_append]; exact hRoom)]
    _ = sync.run (.begin :: (before ++ during ++ between).map .ingest ++
          .snapshot late :: after.map .ingest) := by
        rw [hSplit, run_eq_of_old hOldLate (by simpa only [List.length_append] using hFitSplit)]

/-- An event that ends with a snapshot at 100, one that starts too late for it and bridges one at
111, and the next one. -/
def missedEvents : List DiffEvent :=
  [⟨98, 100, 97, 1, [⟨"10", "1"⟩], []⟩, ⟨110, 112, 109, 2, [⟨"10", "2"⟩], []⟩,
    ⟨113, 115, 112, 3, [⟨"10", "3"⟩], []⟩]

/-- The first snapshot turns out stale for a live event. With the second one behind all events the
synchronizer is in step. -/
theorem run_eq_of_missedEvents :
    ((new "BTCUSDT" 3).run (.begin :: (missedEvents.take 1).map .ingest)).Fails ⟨100, [], []⟩
      ((missedEvents.drop 1).take 1)
      (.snapshot ⟨100, [], []⟩ :: ((missedEvents.drop 1).take 1).map .ingest) ∧
    (new "BTCUSDT" 3).run (.begin :: (missedEvents.take 1).map .ingest ++
        (.snapshot ⟨100, [], []⟩ :: ((missedEvents.drop 1).take 1).map .ingest) ++
        (missedEvents.drop 2).map .ingest ++ .snapshot ⟨111, [], []⟩ :: [].map .ingest) =
      (new "BTCUSDT" 3).run (.begin :: missedEvents.map .ingest ++
        .snapshot ⟨111, [], []⟩ :: [].map .ingest) ∧
    ((new "BTCUSDT" 3).run (.begin :: missedEvents.map .ingest ++
      [.snapshot ⟨111, [], []⟩])).state = .synced := by
  have hFails : ((new "BTCUSDT" 3).run (.begin :: (missedEvents.take 1).map .ingest)).Fails
      ⟨100, [], []⟩ ((missedEvents.drop 1).take 1)
      (.snapshot ⟨100, [], []⟩ :: ((missedEvents.drop 1).take 1).map .ingest) :=
    @Fails.staleLater _ _ [] ⟨110, 112, 109, 2, [⟨"10", "2"⟩], []⟩ 100 110 (by decide +kernel)
  have hRun := @run_eq_of_failed_attempt (new "BTCUSDT" 3) ⟨100, [], []⟩ ⟨111, [], []⟩ (by decide)
    _ _ (missedEvents.drop 2) [] _ (by decide) hFails
  exact ⟨hFails, hRun.1, by decide +kernel⟩

end MarketGateway.Book.Synchronizer
