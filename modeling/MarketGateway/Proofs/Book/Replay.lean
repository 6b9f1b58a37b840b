import MarketGateway.Proofs.Book.Synchronizer

/-!
# Replaying and taking live

A snapshot may come before, between or behind the events that it is followed by. The events before
it are buffered and replayed when it comes, the others are taken live. While the buffer is large
enough the replay ends as the live events do (`replay_eq_run`), so the moment at which the snapshot
comes makes no difference (`run_eq_of_snapshot_moved`).

A replay ends with the first event that is refused, a live run goes on. The two agree because a
refusal either leaves a synchronizer that refuses everything from then on (`ingest_of_stuck`), or it
is a stale snapshot, after which the rest is buffered (`run_ingest_of_connecting`).
-/

namespace MarketGateway.Book.Synchronizer

variable {sync : Synchronizer} {event : DiffEvent} {events : List DiffEvent}

@[simp] theorem run_nil (sync : Synchronizer) : sync.run [] = sync := rfl

@[simp] theorem run_cons (sync : Synchronizer) (move : Move) (moves : List Move) :
    sync.run (move :: moves) = (sync.step move).run moves := rfl

theorem run_append (sync : Synchronizer) (moves more : List Move) :
    sync.run (moves ++ more) = (sync.run moves).run more :=
  List.foldl_append

/-! ## Events that are taken live -/

/-- No event changes the synchronizer: it has not begun, or it waits without a replica. -/
def Stuck (sync : Synchronizer) : Prop :=
  sync.state = .disconnected ∨ (sync.state = .awaitingBridge ∧ sync.book = none)

theorem stuck_reset (sync : Synchronizer) : sync.reset.Stuck := .inl rfl

theorem ingest_of_stuck (hStuck : sync.Stuck) (event : DiffEvent) :
    (sync.ingest event).2 = sync := by
  rcases hStuck with hState | ⟨hState, hBook⟩
  · simp only [ingest, hState]
  · simp only [ingest, hState, tryBridge, hBook]

theorem run_ingest_of_stuck (hStuck : sync.Stuck) (events : List DiffEvent) :
    sync.run (events.map .ingest) = sync := by
  induction events with
  | nil => rfl
  | cons event rest ih =>
    rw [List.map_cons, run_cons, step, ingest_of_stuck hStuck]
    exact ih

/-- While it connects, a synchronizer buffers what fits. -/
theorem run_ingest_of_connecting (hState : sync.state = .connecting)
    (hFit : sync.buffer.length + events.length ≤ sync.capacity) :
    sync.run (events.map .ingest) = { sync with buffer := sync.buffer ++ events } := by
  induction events generalizing sync with
  | nil => simp
  | cons event rest ih =>
    have hRoom : ¬ sync.capacity ≤ sync.buffer.length := by
      simp only [List.length_cons] at hFit
      omega
    have hNext : (sync.ingest event).2 = { sync with buffer := sync.buffer ++ [event] } := by
      simp only [ingest, hState, hRoom, if_false]
    have hRest : (sync.buffer ++ [event]).length + rest.length ≤ sync.capacity := by
      simp only [List.length_append, List.length_cons, List.length_nil] at hFit ⊢
      omega
    have hRun := @ih { sync with buffer := sync.buffer ++ [event] } hState hRest
    rw [List.map_cons, run_cons, step, hNext, hRun]
    simp

/-! ## Events that are replayed -/

/-- An event that is taken adds at most itself to the buffer, and one that is refused leaves a stuck
synchronizer or a buffer with that event. -/
theorem ingest_cases (sync : Synchronizer) (event : DiffEvent) :
    (∃ progress, (sync.ingest event).1 = .ok progress ∧
      (sync.ingest event).2.capacity = sync.capacity ∧
      (sync.ingest event).2.buffer.length ≤ sync.buffer.length + 1) ∨
    (∃ error, (sync.ingest event).1 = .error error ∧ error.isStale = true ∧
      (sync.ingest event).2.state = .connecting ∧
      (sync.ingest event).2.capacity = sync.capacity ∧
      (sync.ingest event).2.buffer = sync.buffer ++ [event]) ∨
    (∃ error, (sync.ingest event).1 = .error error ∧ error.isStale = false ∧
      (sync.ingest event).2.Stuck) := by
  have hSpec := ingest_spec sync event
  generalize sync.ingest event = outcome at hSpec
  cases hSpec with
  | stopped hState => exact .inr (.inr ⟨_, rfl, rfl, .inl hState⟩)
  | overflow => exact .inr (.inr ⟨_, rfl, rfl, stuck_reset sync⟩)
  | buffered => exact .inl ⟨_, rfl, rfl, by simp⟩
  | bookless hState hBook => exact .inr (.inr ⟨_, rfl, rfl, .inr ⟨hState, hBook⟩⟩)
  | discarded => exact .inl ⟨_, rfl, rfl, Nat.le_succ _⟩
  | stale => exact .inr (.inl ⟨_, rfl, rfl, rfl, rfl, rfl⟩)
  | bridged => exact .inl ⟨_, rfl, rfl, Nat.le_succ _⟩
  | bridgeRefused => exact .inr (.inr ⟨_, rfl, rfl, stuck_reset sync⟩)
  | applied => exact .inl ⟨_, rfl, rfl, Nat.le_succ _⟩
  | refused => exact .inr (.inr ⟨_, rfl, rfl, stuck_reset sync⟩)

/-- An event leaves a synchronizer in step exactly if it changed the replica. -/
theorem ingest_synced_iff (sync : Synchronizer) (event : DiffEvent) :
    (sync.ingest event).2.state = .synced ↔
      ∃ progress, (sync.ingest event).1 = .ok progress ∧ progress.changedBook = true := by
  have hSpec := ingest_spec sync event
  generalize sync.ingest event = outcome at hSpec
  cases hSpec with
  | stopped hState => simp [hState]
  | overflow => simp [reset]
  | buffered hState => simp [hState, Progress.changedBook]
  | bookless hState => simp [hState]
  | discarded hState => simp [hState, Progress.changedBook]
  | stale => simp
  | bridged => simp [Progress.changedBook]
  | bridgeRefused => simp [reset]
  | applied hState => simp [hState, Progress.changedBook]
  | refused => simp [reset]

/-- A replay answers with the state that it ends in, or it was refused and is out of step. -/
theorem replay_answer (sync : Synchronizer) (events : List DiffEvent) :
    (sync.replay events).1 = .ok (sync.replay events).2.state ∨
      ∃ error, (sync.replay events).1 = .error error ∧ (sync.replay events).2.state ≠ .synced := by
  induction events generalizing sync with
  | nil => exact .inl rfl
  | cons event rest ih =>
    have hSynced := sync.ingest_synced_iff event
    rw [replay]
    generalize sync.ingest event = outcome at hSynced
    obtain ⟨answer, next⟩ := outcome
    cases answer with
    | ok progress => exact ih next
    | error error =>
      have hOut : next.state ≠ .synced := fun hState => by simpa using hSynced.mp hState
      refine .inr ⟨error, rfl, ?_⟩
      dsimp only
      split <;> exact hOut

/-- A snapshot that is taken comes while the synchronizer is out of step, and the answer is the
state after it. One that is refused brings nothing in step. -/
theorem onSnapshot_answer (sync : Synchronizer) (snapshot : Snapshot) :
    (sync.state ≠ .synced ∧ (sync.onSnapshot snapshot).1 = .ok (sync.onSnapshot snapshot).2.state) ∨
      ∃ error, (sync.onSnapshot snapshot).1 = .error error ∧
        ((sync.onSnapshot snapshot).2.state = .synced → sync.state = .synced) := by
  unfold onSnapshot
  split
  · next hOpen =>
    rcases replay_answer _ sync.buffer with hAnswer | ⟨error, hError, hOut⟩
    · refine .inl ⟨?_, hAnswer⟩
      intro hState
      simp [hState] at hOpen
    · exact .inr ⟨error, hError, fun hState => absurd hState hOut⟩
  · exact .inr ⟨_, rfl, id⟩

/-- By induction on the events. What the replay leaves out behind a refusal changes nothing live,
and what it buffers behind a stale snapshot is buffered live. -/
theorem replay_eq_run (hFit : sync.buffer.length + events.length ≤ sync.capacity) :
    (sync.replay events).2 = sync.run (events.map .ingest) := by
  induction events generalizing sync with
  | nil => rfl
  | cons event rest ih =>
    have hCases := sync.ingest_cases event
    rw [replay, List.map_cons, run_cons, step]
    generalize sync.ingest event = outcome at hCases
    obtain ⟨result, next⟩ := outcome
    simp only [List.length_cons] at hFit
    rcases hCases with ⟨progress, rfl, hCapacity, hBuffer⟩ |
      ⟨error, rfl, hStale, hState, hCapacity, hBuffer⟩ | ⟨error, rfl, hStale, hStuck⟩
    · refine ih ?_
      dsimp only at hCapacity hBuffer
      omega
    · -- The replay keeps the rest, and a live run buffers it, for which there is room.
      have hRest : next.buffer.length + rest.length ≤ next.capacity := by
        dsimp only at hCapacity hBuffer
        rw [hCapacity, hBuffer, List.length_append, List.length_singleton]
        omega
      simp only [hStale, if_true]
      exact (run_ingest_of_connecting hState hRest).symm
    · -- The replay drops the rest, and a live run refuses it.
      simp only [hStale]
      exact (run_ingest_of_stuck hStuck rest).symm

/-! ## Moving the snapshot -/

/-- The events before the snapshot may as well come behind it. -/
theorem run_snapshot_first (snapshot : Snapshot) {before after : List DiffEvent}
    (hFit : (before ++ after).length ≤ sync.capacity) :
    sync.run (.begin :: before.map .ingest ++ .snapshot snapshot :: after.map .ingest) =
      sync.run (.begin :: .snapshot snapshot :: (before ++ after).map .ingest) := by
  have hBefore : before.length ≤ sync.capacity := by
    rw [List.length_append] at hFit
    omega
  have hBuffered : sync.begin.run (before.map .ingest) = { sync.begin with buffer := before } :=
    run_ingest_of_connecting rfl (by simpa [begin] using hBefore)
  have hReplay : (({ sync.begin with buffer := before } : Synchronizer).onSnapshot snapshot).2 =
      (sync.begin.onSnapshot snapshot).2.run (before.map .ingest) :=
    replay_eq_run (by simpa [begin] using hBefore)
  calc sync.run (.begin :: before.map .ingest ++ .snapshot snapshot :: after.map .ingest)
      = ((sync.begin.run (before.map .ingest)).onSnapshot snapshot).2.run (after.map .ingest) := by
        rw [List.cons_append, run_cons, run_append]
        rfl
    _ = ((sync.begin.onSnapshot snapshot).2.run (before.map .ingest)).run (after.map .ingest) := by
        rw [hBuffered, hReplay]
    _ = sync.run (.begin :: .snapshot snapshot :: (before ++ after).map .ingest) := by
        rw [← run_append, List.map_append]
        rfl

/-- **The moment of the snapshot makes no difference.** Events that the buffer can hold are cut into
those before and those behind the snapshot in any two ways, and whatever is refused on the way, both
runs end with the same synchronizer: the same state, replica, buffer and time. -/
theorem run_eq_of_snapshot_moved (sync : Synchronizer) (snapshot : Snapshot)
    {before after before' after' : List DiffEvent} (hSame : before ++ after = before' ++ after')
    (hFit : (before ++ after).length ≤ sync.capacity) :
    sync.run (.begin :: before.map .ingest ++ .snapshot snapshot :: after.map .ingest) =
      sync.run (.begin :: before'.map .ingest ++ .snapshot snapshot :: after'.map .ingest) := by
  rw [run_snapshot_first snapshot hFit, run_snapshot_first snapshot (hSame ▸ hFit), hSame]

/-- An event that ends with a snapshot at 100, one that starts too late for it, and the next one. -/
def lateEvents : List DiffEvent :=
  [⟨98, 100, 97, 1, [⟨"10", "1"⟩], []⟩, ⟨110, 112, 109, 2, [⟨"10", "2"⟩], []⟩,
    ⟨113, 115, 112, 3, [⟨"10", "3"⟩], []⟩]

/-- The snapshot turns out stale in the middle of the replay, or among the live events: both times
the last two events wait for the next snapshot. -/
theorem run_eq_of_lateEvents :
    lateEvents.take 2 ++ lateEvents.drop 2 = [] ++ lateEvents ∧
    (lateEvents.take 2 ++ lateEvents.drop 2).length ≤ (new "BTCUSDT" 3).capacity ∧
    (new "BTCUSDT" 3).run (.begin :: (lateEvents.take 2).map .ingest ++
        .snapshot ⟨100, [⟨"10", "1"⟩], []⟩ :: (lateEvents.drop 2).map .ingest) =
      (new "BTCUSDT" 3).run (.begin :: ([] : List DiffEvent).map .ingest ++
        .snapshot ⟨100, [⟨"10", "1"⟩], []⟩ :: lateEvents.map .ingest) ∧
    (new "BTCUSDT" 3).run (.begin :: ([] : List DiffEvent).map .ingest ++
        .snapshot ⟨100, [⟨"10", "1"⟩], []⟩ :: lateEvents.map .ingest) =
      ⟨"BTCUSDT", .connecting, 3, lateEvents.drop 1, none, none⟩ :=
  ⟨rfl, by decide,
    run_eq_of_snapshot_moved (new "BTCUSDT" 3) ⟨100, [⟨"10", "1"⟩], []⟩ rfl (by decide),
    by decide +kernel⟩

end MarketGateway.Book.Synchronizer
