import MarketGateway.Proofs.Book.Order
import MarketGateway.Proofs.Book.Replay

/-!
# What a synchronizer holds of its stream

`Synchronizer.Holds` says what a synchronizer can hold after it was given some snapshots and heard a
stream of events, whatever these are: the events that it buffers are the last ones it heard, a
replica that waits is that of a snapshot, and a replica in step is that of a snapshot with all
events from the bridging one on applied to it, which are the last ones it heard. So nothing of the
stream is lost, repeated or reordered in between.

Events, snapshots and bridge timeouts keep this (`Holds.ingest`, `Holds.onSnapshot`,
`Holds.onBridgeTimeout`).
-/

namespace MarketGateway.Book

/-- Events that can be applied to a snapshot: the first of them bridges it. -/
def Snapshot.BridgedBy (snapshot : Snapshot) (events : List DiffEvent) : Prop :=
  ∃ first ∈ events.head?, first.bridges snapshot.lastUpdateId = true

theorem Snapshot.BridgedBy.append {snapshot : Snapshot} {events : List DiffEvent}
    (hBridged : snapshot.BridgedBy events) (more : List DiffEvent) :
    snapshot.BridgedBy (events ++ more) := by
  obtain ⟨first, hFirst, hBridges⟩ := hBridged
  refine ⟨first, ?_, hBridges⟩
  rw [List.head?_append, Option.mem_def.mp hFirst]
  rfl

/-- The time of the last event. -/
def lastTime? (events : List DiffEvent) : Option Int64 := events.getLast?.map (·.eventTime)

@[simp] theorem lastTime?_snoc (events : List DiffEvent) (event : DiffEvent) :
    lastTime? (events ++ [event]) = some event.eventTime := by
  simp [lastTime?]

@[simp] theorem Replica.advanceAll_snoc (book : Replica) (events : List DiffEvent)
    (event : DiffEvent) :
    book.advanceAll (events ++ [event]) = (book.advanceAll events).advance event := by
  simp [advanceAll]

namespace Synchronizer

/-- What a synchronizer for a symbol holds after the snapshots and the events that it was given. -/
inductive Holds (symbol : String) (capacity : Nat) (snapshots : List Snapshot)
    (heard : List DiffEvent) : Synchronizer → Prop
  | disconnected : Holds symbol capacity snapshots heard
      ⟨symbol, .disconnected, capacity, [], none, none⟩
  | connecting {kept : List DiffEvent} (hKept : kept <:+ heard) (hFit : kept.length ≤ capacity) :
      Holds symbol capacity snapshots heard ⟨symbol, .connecting, capacity, kept, none, none⟩
  | waiting {snapshot : Snapshot} (hTaken : snapshot ∈ snapshots) :
      Holds symbol capacity snapshots heard
        ⟨symbol, .awaitingBridge, capacity, [], some (.ofSnapshot symbol snapshot), none⟩
  | synced {snapshot : Snapshot} {applied : List DiffEvent} (hTaken : snapshot ∈ snapshots)
      (hBridged : snapshot.BridgedBy applied) (hApplied : applied <:+ heard) :
      Holds symbol capacity snapshots heard
        ⟨symbol, .synced, capacity, [],
          some ((Replica.ofSnapshot symbol snapshot).advanceAll applied), lastTime? applied⟩

variable {symbol : String} {capacity : Nat} {snapshots : List Snapshot} {heard : List DiffEvent}
  {sync : Synchronizer}

namespace Holds

theorem of_connecting (hSync : sync.Holds symbol capacity snapshots heard)
    (hState : sync.state = .connecting) :
    ∃ kept, kept <:+ heard ∧ kept.length ≤ capacity ∧
      sync = ⟨symbol, .connecting, capacity, kept, none, none⟩ := by
  cases hSync with
  | connecting hKept hFit => exact ⟨_, hKept, hFit, rfl⟩
  | disconnected => cases hState
  | waiting => cases hState
  | synced => cases hState

theorem of_waiting (hSync : sync.Holds symbol capacity snapshots heard)
    (hState : sync.state = .awaitingBridge) :
    ∃ snapshot ∈ snapshots,
      sync = ⟨symbol, .awaitingBridge, capacity, [], some (.ofSnapshot symbol snapshot), none⟩ := by
  cases hSync with
  | waiting hTaken => exact ⟨_, hTaken, rfl⟩
  | disconnected => cases hState
  | connecting => cases hState
  | synced => cases hState

theorem of_synced (hSync : sync.Holds symbol capacity snapshots heard)
    (hState : sync.state = .synced) :
    ∃ snapshot ∈ snapshots, ∃ applied, snapshot.BridgedBy applied ∧ applied <:+ heard ∧
      sync = ⟨symbol, .synced, capacity, [],
        some ((Replica.ofSnapshot symbol snapshot).advanceAll applied), lastTime? applied⟩ := by
  cases hSync with
  | synced hTaken hBridged hApplied => exact ⟨_, hTaken, _, hBridged, hApplied, rfl⟩
  | disconnected => cases hState
  | connecting => cases hState
  | waiting => cases hState

theorem reset (hSync : sync.Holds symbol capacity snapshots heard) (given : List Snapshot)
    (events : List DiffEvent) : sync.reset.Holds symbol capacity given events := by
  cases hSync <;> exact .disconnected

/-! ## Events -/

theorem ingest (hSync : sync.Holds symbol capacity snapshots heard) (hCapacity : 1 ≤ capacity)
    (event : DiffEvent) :
    (sync.ingest event).2.Holds symbol capacity snapshots (heard ++ [event]) := by
  have hLatest : [event] <:+ heard ++ [event] := List.suffix_append heard [event]
  have hSpec := ingest_spec sync event
  generalize sync.ingest event = outcome at hSpec
  cases hSpec with
  | stopped hState => cases hSync <;> first | exact .disconnected | cases hState
  | overflow => exact hSync.reset _ _
  | buffered hState hRoom =>
    obtain ⟨kept, hKept, hFit, rfl⟩ := hSync.of_connecting hState
    refine .connecting (List.suffix_append_self_iff.mpr hKept) ?_
    rw [List.length_append, List.length_singleton]
    exact hRoom
  | bookless hState hBook =>
    obtain ⟨snapshot, -, rfl⟩ := hSync.of_waiting hState
    cases hBook
  | discarded hState =>
    obtain ⟨snapshot, hTaken, rfl⟩ := hSync.of_waiting hState
    exact .waiting hTaken
  | stale hState =>
    obtain ⟨snapshot, hTaken, rfl⟩ := hSync.of_waiting hState
    exact .connecting hLatest hCapacity
  | bridged hState hBook _ hLast hFirst =>
    obtain ⟨snapshot, hTaken, rfl⟩ := hSync.of_waiting hState
    cases hBook
    have hBridges := bridges_of_not_stale hLast (UInt64.not_lt.mpr hFirst)
    have hBridged : snapshot.BridgedBy [event] := ⟨event, rfl, hBridges⟩
    exact .synced hTaken hBridged hLatest
  | bridgeRefused => exact hSync.reset _ _
  | applied hState hBook =>
    obtain ⟨snapshot, hTaken, applied, hBridged, hApplied, rfl⟩ := hSync.of_synced hState
    cases hBook
    have hNext : Holds symbol capacity snapshots (heard ++ [event]) _ :=
      .synced hTaken (hBridged.append [event]) (List.suffix_append_self_iff.mpr hApplied)
    rwa [Replica.advanceAll_snoc, lastTime?_snoc] at hNext
  | refused => exact hSync.reset _ _

/-! ## Snapshots and timeouts -/

/-- By induction on the events that are replayed. -/
theorem replay {events : List DiffEvent} (hSync : sync.Holds symbol capacity snapshots heard)
    (hCapacity : 1 ≤ capacity) (hFit : sync.buffer.length + events.length ≤ capacity) :
    (sync.replay events).2.Holds symbol capacity snapshots (heard ++ events) := by
  induction events generalizing sync heard with
  | nil => simpa [Synchronizer.replay] using hSync
  | cons event rest ih =>
    have hNext := hSync.ingest hCapacity event
    have hCases := sync.ingest_cases event
    have hHeard : heard ++ event :: rest = heard ++ [event] ++ rest := by simp
    simp only [List.length_cons] at hFit
    rw [Synchronizer.replay, hHeard]
    generalize sync.ingest event = outcome at hNext hCases
    obtain ⟨result, next⟩ := outcome
    rcases hCases with ⟨progress, rfl, -, hBuffer⟩ |
      ⟨error, rfl, hStale, hState, -, hBuffer⟩ | ⟨error, rfl, hStale, hStuck⟩
    · refine ih hNext ?_
      dsimp only at hBuffer
      omega
    · obtain ⟨kept, hKept, -, rfl⟩ := hNext.of_connecting hState
      simp only [hStale, if_true]
      refine .connecting (List.suffix_append_self_iff.mpr hKept) ?_
      dsimp only at hBuffer
      rw [hBuffer, List.length_append, List.length_append, List.length_singleton]
      omega
    · simp only [hStale]
      rcases hStuck with hState | ⟨hState, hBook⟩
      · cases hNext <;> first | exact .disconnected | cases hState
      · obtain ⟨snapshot, -, rfl⟩ := hNext.of_waiting hState
        cases hBook

theorem onSnapshot (hSync : sync.Holds symbol capacity snapshots heard) (hCapacity : 1 ≤ capacity)
    (snapshot : Snapshot) :
    (sync.onSnapshot snapshot).2.Holds symbol capacity (snapshots ++ [snapshot]) heard := by
  have hTaken : snapshot ∈ snapshots ++ [snapshot] := List.mem_append_right _ List.mem_cons_self
  cases hSync with
  | disconnected => exact .disconnected
  | @connecting kept hKept hFit =>
    obtain ⟨old, rfl⟩ := hKept
    exact replay (.waiting hTaken) hCapacity (by simpa using hFit)
  | waiting => exact .waiting hTaken
  | synced hOld hBridged hApplied =>
    exact .synced (List.mem_append_left _ hOld) hBridged hApplied

theorem onBridgeTimeout (hSync : sync.Holds symbol capacity snapshots heard) :
    sync.onBridgeTimeout.Holds symbol capacity snapshots heard := by
  cases hSync with
  | disconnected => exact .disconnected
  | connecting hKept hFit => exact .connecting hKept hFit
  | waiting => exact .connecting (List.nil_suffix) (Nat.zero_le _)
  | synced hTaken hBridged hApplied => exact .synced hTaken hBridged hApplied

/-! ## Coming in step -/

theorem buffer_suffix (hSync : sync.Holds symbol capacity snapshots heard) :
    sync.buffer <:+ heard := by
  cases hSync with
  | connecting hKept _ => exact hKept
  | disconnected => exact List.nil_suffix
  | waiting => exact List.nil_suffix
  | synced => exact List.nil_suffix

/-- The event that brings a synchronizer in step bridges the snapshot that waited. -/
theorem ingest_synced (hSync : sync.Holds symbol capacity snapshots heard) {event : DiffEvent}
    (hOut : sync.state ≠ .synced) (hIn : (sync.ingest event).2.state = .synced) :
    ∃ snapshot ∈ snapshots, snapshot.BridgedBy [event] ∧ (sync.ingest event).2 =
      ⟨symbol, .synced, capacity, [],
        some ((Replica.ofSnapshot symbol snapshot).advanceAll [event]), lastTime? [event]⟩ := by
  have hSpec := ingest_spec sync event
  generalize sync.ingest event = outcome at hSpec hIn ⊢
  cases hSpec with
  | bridged hState hBook _ hLast hFirst =>
    obtain ⟨snapshot, hTaken, rfl⟩ := hSync.of_waiting hState
    cases hBook
    have hBridges := bridges_of_not_stale hLast (UInt64.not_lt.mpr hFirst)
    exact ⟨snapshot, hTaken, ⟨event, rfl, hBridges⟩, rfl⟩
  | stopped | bookless | discarded => exact absurd hIn hOut
  | buffered => exact absurd hIn hOut
  | overflow | stale | bridgeRefused | refused => cases hIn
  | applied hState => exact absurd hState hOut

/-- The snapshot that brings a synchronizer in step is bridged by an event of its buffer, and all
that was buffered behind it is applied. -/
theorem onSnapshot_synced (hSync : sync.Holds symbol capacity snapshots heard)
    (hCapacity : 1 ≤ capacity) {snapshot : Snapshot} (hOut : sync.state ≠ .synced)
    (hIn : (sync.onSnapshot snapshot).2.state = .synced) :
    ∃ applied, snapshot.BridgedBy applied ∧ applied <:+ sync.buffer ∧
      (sync.onSnapshot snapshot).2 = ⟨symbol, .synced, capacity, [],
        some ((Replica.ofSnapshot symbol snapshot).advanceAll applied), lastTime? applied⟩ := by
  cases hSync with
  | disconnected => cases hIn
  | @connecting kept _ hFit =>
    have hWaiting : Holds symbol capacity [snapshot] [] _ := .waiting (List.mem_singleton_self _)
    have hReplayed := hWaiting.replay hCapacity (by simpa using hFit)
    obtain ⟨taken, hTaken, applied, hBridged, hApplied, hNext⟩ := hReplayed.of_synced hIn
    obtain rfl := List.mem_singleton.mp hTaken
    exact ⟨applied, hBridged, hApplied, hNext⟩
  | waiting => cases hIn
  | synced => exact absurd rfl hOut

end Holds

end Synchronizer

end MarketGateway.Book
