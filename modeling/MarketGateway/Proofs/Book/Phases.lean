import MarketGateway.Proofs.Book.Stream

/-!
# Phases of synchronizers

What a synchronizer has in each of its states, after any moves whatever. `appliedIn` is the log of a
run: the events that changed the replica, by the answers to the single events. A replica in step is
that of a snapshot with the last events of the log applied to it (`Logged`), so the time kept beside
it is that of the last event applied.

The answers to an event and to a snapshot are listed by the state in which they are given
(`RefusesEvent`, `RefusesSnapshot`). No replica that a synchronizer holds has refused an event, and
an event that is neither old nor too late bridges the snapshot that waits, so three of the refusals
that a synchronizer is written for never come.
-/

namespace MarketGateway.Book

theorem Replica.desynced_advanceAll (book : Replica) (events : List DiffEvent) :
    (book.advanceAll events).desynced = book.desynced := by
  induction events generalizing book with
  | nil => rfl
  | cons event rest ih => exact ih (book.advance event)

theorem Snapshot.BridgedBy.ne_nil {snapshot : Snapshot} {events : List DiffEvent}
    (hBridged : snapshot.BridgedBy events) : events ≠ [] := by
  obtain ⟨first, hFirst, -⟩ := hBridged
  rintro rfl
  cases hFirst

namespace Synchronizer

/-! ## The log of a run -/

/-- Those of the events, taken one after another, that change the replica; none from the first one
on that is refused. -/
def applies (sync : Synchronizer) : List DiffEvent → List DiffEvent
  | [] => []
  | event :: rest =>
    match sync.ingest event with
    | (.ok progress, next) =>
      (if progress.changedBook then [event] else []) ++ next.applies rest
    | (.error _, _) => []

/-- The synchronizer with a snapshot that waits, before the buffered events are replayed. -/
def withSnapshot (sync : Synchronizer) (snapshot : Snapshot) : Synchronizer :=
  { sync with
    book := some (Replica.ofSnapshot sync.symbol snapshot)
    lastEventTime := none
    state := .awaitingBridge
    buffer := [] }

theorem onSnapshot_of_open {sync : Synchronizer} (snapshot : Snapshot)
    (hOpen : sync.state = .connecting ∨ sync.state = .awaitingBridge) :
    sync.onSnapshot snapshot = (sync.withSnapshot snapshot).replay sync.buffer :=
  if_pos hOpen

/-- The events that a move applies to the replica. -/
def applied (sync : Synchronizer) : Move → List DiffEvent
  | .ingest event => sync.applies [event]
  | .snapshot snapshot =>
    if sync.state = .connecting ∨ sync.state = .awaitingBridge then
      (sync.withSnapshot snapshot).applies sync.buffer
    else []
  | .begin | .reset | .bridgeTimeout => []

/-- All events that a run applies, whether replayed or taken live. -/
def appliedIn (sync : Synchronizer) : List Move → List DiffEvent
  | [] => []
  | move :: rest => sync.applied move ++ (sync.step move).appliedIn rest

theorem appliedIn_snoc (sync : Synchronizer) (moves : List Move) (move : Move) :
    sync.appliedIn (moves ++ [move]) = sync.appliedIn moves ++ (sync.run moves).applied move := by
  induction moves generalizing sync with
  | nil => simp [appliedIn]
  | cons first rest ih => simp [appliedIn, ih]

theorem run_snoc (sync : Synchronizer) (moves : List Move) (move : Move) :
    sync.run (moves ++ [move]) = (sync.run moves).step move :=
  run_append sync moves [move]

/-- The replica in step is that of a snapshot with events applied to it that end the log. -/
def Logged (symbol : String) (log : List DiffEvent) (sync : Synchronizer) : Prop :=
  sync.state = .synced → ∃ snapshot session, Snapshot.BridgedBy snapshot session ∧
    session <:+ log ∧
    sync.book = some ((Replica.ofSnapshot symbol snapshot).advanceAll session) ∧
    sync.lastEventTime = lastTime? session

variable {symbol : String} {capacity : Nat} {snapshots : List Snapshot}
  {heard log : List DiffEvent} {sync : Synchronizer}

theorem logged_of_out (hOut : sync.state ≠ .synced) : sync.Logged symbol log :=
  fun hState => absurd hState hOut

theorem Logged.ingest (hLogged : sync.Logged symbol log)
    (hSync : sync.Holds symbol capacity snapshots heard) (event : DiffEvent) :
    (sync.ingest event).2.Logged symbol (log ++ sync.applies [event]) := by
  intro hIn
  obtain ⟨progress, hAnswer, hChanged⟩ := (sync.ingest_synced_iff event).mp hIn
  have hEvent : sync.applies [event] = [event] := by
    rw [applies]
    generalize sync.ingest event = outcome at hAnswer
    obtain ⟨answer, next⟩ := outcome
    cases hAnswer
    simp [hChanged, applies]
  rw [hEvent]
  by_cases hState : sync.state = .synced
  · obtain ⟨snapshot, session, hBridged, hSuffix, hBook, -⟩ := hLogged hState
    have hSpec := ingest_spec sync event
    generalize sync.ingest event = outcome at hSpec hIn hAnswer
    cases hSpec with
    | applied _ hOld =>
      obtain rfl : _ = (Replica.ofSnapshot symbol snapshot).advanceAll session :=
        Option.some.inj (hOld.symm.trans hBook)
      refine ⟨snapshot, session ++ [event], hBridged.append [event],
        List.suffix_append_self_iff.mpr hSuffix, ?_, ?_⟩
      · rw [Replica.advanceAll_snoc]
      · rw [lastTime?_snoc]
    | stopped hOther | overflow hOther | buffered hOther | bookless hOther | discarded hOther
    | stale hOther | bridged hOther | bridgeRefused hOther =>
      rw [hState] at hOther
      cases hOther
    | refused => cases hAnswer
  · obtain ⟨snapshot, -, hBridged, hNext⟩ := hSync.ingest_synced hState hIn
    rw [hNext]
    exact ⟨snapshot, [event], hBridged, List.suffix_append log [event], rfl, rfl⟩

/-- By induction on the events that are replayed; behind a refusal nothing is in step. -/
theorem Logged.replay {events : List DiffEvent} (hLogged : sync.Logged symbol log)
    (hSync : sync.Holds symbol capacity snapshots heard) (hCapacity : 1 ≤ capacity) :
    (sync.replay events).2.Logged symbol (log ++ sync.applies events) := by
  induction events generalizing sync heard log with
  | nil => simpa [applies, Synchronizer.replay] using hLogged
  | cons event rest ih =>
    have hNext := hSync.ingest hCapacity event
    have hStep := hLogged.ingest hSync event
    have hAnswer := replay_answer sync (event :: rest)
    rw [Synchronizer.replay] at hAnswer ⊢
    rw [applies] at hStep ⊢
    generalize sync.ingest event = outcome at hNext hStep hAnswer ⊢
    obtain ⟨answer, next⟩ := outcome
    cases answer with
    | ok progress =>
      have hRest := ih hStep hNext
      simpa [applies] using hRest
    | error error =>
      rcases hAnswer with hOk | ⟨_, -, hOut⟩
      · cases hOk
      · exact logged_of_out hOut

/-! ## What every move keeps -/

theorem Holds.begin (hSync : sync.Holds symbol capacity snapshots heard) :
    sync.begin.Holds symbol capacity snapshots heard := by
  cases hSync <;> exact .connecting List.nil_suffix (Nat.zero_le _)

theorem Holds.step (hSync : sync.Holds symbol capacity snapshots heard) (hCapacity : 1 ≤ capacity)
    (move : Move) :
    ∃ snapshots heard, (sync.step move).Holds symbol capacity snapshots heard := by
  cases move with
  | begin => exact ⟨_, _, hSync.begin⟩
  | reset => exact ⟨[], [], hSync.reset [] []⟩
  | bridgeTimeout => exact ⟨_, _, hSync.onBridgeTimeout⟩
  | snapshot snapshot => exact ⟨_, _, hSync.onSnapshot hCapacity snapshot⟩
  | ingest event => exact ⟨_, _, hSync.ingest hCapacity event⟩

theorem Logged.step (hLogged : sync.Logged symbol log)
    (hSync : sync.Holds symbol capacity snapshots heard) (hCapacity : 1 ≤ capacity) (move : Move) :
    (sync.step move).Logged symbol (log ++ sync.applied move) := by
  cases move with
  | begin => exact logged_of_out (by simp [Synchronizer.step, Synchronizer.begin])
  | reset => exact logged_of_out (by simp [Synchronizer.step, Synchronizer.reset])
  | bridgeTimeout =>
    by_cases hState : sync.state = .awaitingBridge
    · exact logged_of_out (by simp [Synchronizer.step, onBridgeTimeout, hState])
    · simpa [Synchronizer.step, onBridgeTimeout, applied, hState] using hLogged
  | ingest event => exact hLogged.ingest hSync event
  | snapshot snapshot =>
    by_cases hOpen : sync.state = .connecting ∨ sync.state = .awaitingBridge
    · have hWaiting : (sync.withSnapshot snapshot).Holds symbol capacity [snapshot] [] := by
        cases hSync <;> exact .waiting (List.mem_singleton_self _)
      have hOut : (sync.withSnapshot snapshot).Logged symbol log :=
        logged_of_out (by simp [withSnapshot])
      simp only [Synchronizer.step, applied, if_pos hOpen, onSnapshot_of_open snapshot hOpen]
      exact hOut.replay hWaiting hCapacity
    · simpa [Synchronizer.step, onSnapshot, applied, hOpen] using hLogged

/-- By induction on the moves, from the last one on. -/
theorem holds_and_logged_run (symbol : String) (capacity : Nat) (moves : List Move) :
    (∃ snapshots heard,
      ((new symbol capacity).run moves).Holds symbol (max capacity 1) snapshots heard) ∧
    ((new symbol capacity).run moves).Logged symbol ((new symbol capacity).appliedIn moves) := by
  have hCapacity : 1 ≤ max capacity 1 := le_max_right capacity 1
  induction moves using List.reverseRecOn with
  | nil => exact ⟨⟨[], [], .disconnected⟩, logged_of_out (by simp [new])⟩
  | append_singleton moves move ih =>
    obtain ⟨⟨snapshots, heard, hSync⟩, hLogged⟩ := ih
    rw [run_snoc, appliedIn_snoc]
    exact ⟨hSync.step hCapacity move, hLogged.step hSync hCapacity move⟩

/-! ## Refusals -/

/-- Why a synchronizer can refuse an event, by its state. -/
inductive RefusesEvent (sync : Synchronizer) : SyncError → Prop
  | notBegun (hState : sync.state = .disconnected) :
      RefusesEvent sync (.unexpectedInput .diff .disconnected)
  | overflow (hState : sync.state = .connecting) (hFull : sync.buffer.length = sync.capacity) :
      RefusesEvent sync (.bufferOverflow sync.capacity)
  | stale (snapshotId firstUpdateId : UInt64) (hState : sync.state = .awaitingBridge) :
      RefusesEvent sync (.staleSnapshot snapshotId firstUpdateId)
  | gap (expected received : UInt64) (hState : sync.state = .synced) :
      RefusesEvent sync (.book (.sequenceGap expected received))
  | regression (current received : UInt64) (hState : sync.state = .synced) :
      RefusesEvent sync (.book (.regression current received))

/-- Why a synchronizer can refuse a snapshot, by its state. -/
inductive RefusesSnapshot (sync : Synchronizer) : SyncError → Prop
  | notBegun (hState : sync.state = .disconnected) :
      RefusesSnapshot sync (.unexpectedInput .snapshot .disconnected)
  | inStep (hState : sync.state = .synced) :
      RefusesSnapshot sync (.unexpectedInput .snapshot .synced)
  | stale (snapshotId firstUpdateId : UInt64) (hState : sync.state = .connecting) :
      RefusesSnapshot sync (.staleSnapshot snapshotId firstUpdateId)
  | gap (expected received : UInt64) (hState : sync.state = .connecting) :
      RefusesSnapshot sync (.book (.sequenceGap expected received))
  | regression (current received : UInt64) (hState : sync.state = .connecting) :
      RefusesSnapshot sync (.book (.regression current received))

/-- A replica that has not refused anything yet refuses an event only for its ids. -/
theorem applySteady_error {book : Replica} (hBook : sync.book = some book)
    (hLive : book.desynced = false) {event : DiffEvent} {error : SyncError}
    (hError : (sync.applySteady event).1 = .error error) :
    (∃ expected received, error = .book (.sequenceGap expected received)) ∨
      ∃ current received, error = .book (.regression current received) := by
  simp only [applySteady, hBook, Replica.applyDiff, hLive, Bool.false_eq_true, if_false] at hError
  split_ifs at hError with hLink hLast
  · cases hError
    exact .inl ⟨_, _, rfl⟩
  · cases hError
    exact .inr ⟨_, _, rfl⟩

theorem Holds.refusesEvent (hSync : sync.Holds symbol capacity snapshots heard)
    {event : DiffEvent} {error : SyncError} (hError : (sync.ingest event).1 = .error error) :
    sync.RefusesEvent error := by
  have hSpec := ingest_spec sync event
  generalize hOutcome : sync.ingest event = outcome at hSpec hError
  cases hSpec with
  | stopped hState =>
    cases hError
    exact .notBegun hState
  | overflow hState hFull =>
    cases hError
    obtain ⟨kept, -, hFit, rfl⟩ := hSync.of_connecting hState
    exact .overflow rfl (Nat.le_antisymm hFit hFull)
  | bookless hState hBook =>
    obtain ⟨snapshot, -, rfl⟩ := hSync.of_waiting hState
    cases hBook
  | stale hState =>
    cases hError
    exact .stale _ _ hState
  | bridgeRefused hState hBook _ hDesynced =>
    obtain ⟨snapshot, -, rfl⟩ := hSync.of_waiting hState
    cases hBook
    cases hDesynced
  | refused bookError hState =>
    obtain ⟨snapshot, -, session, -, -, rfl⟩ := hSync.of_synced hState
    have hLive : ((Replica.ofSnapshot symbol snapshot).advanceAll session).desynced = false :=
      Replica.desynced_advanceAll _ session
    have hSteady : (applySteady _ event).1 = .error error :=
      (congrArg Prod.fst hOutcome).trans hError
    rcases applySteady_error rfl hLive hSteady with ⟨_, _, rfl⟩ | ⟨_, _, rfl⟩
    · exact .gap _ _ hState
    · exact .regression _ _ hState
  | buffered | discarded | bridged | applied => cases hError

/-- A replay that is refused ends at an event that is refused by a synchronizer with a replica. -/
theorem Holds.replay_refusal {events : List DiffEvent} {error : SyncError}
    (hSync : sync.Holds symbol capacity snapshots heard) (hCapacity : 1 ≤ capacity)
    (hState : sync.state = .awaitingBridge ∨ sync.state = .synced)
    (hError : (sync.replay events).1 = .error error) :
    ∃ last : Synchronizer, (last.state = .awaitingBridge ∨ last.state = .synced) ∧
      last.RefusesEvent error := by
  induction events generalizing sync heard with
  | nil => cases hError
  | cons event rest ih =>
    have hNext := hSync.ingest hCapacity event
    have hRefuses := @hSync.refusesEvent _ _ _ _ _ event
    have hSpec := ingest_spec sync event
    rw [Synchronizer.replay] at hError
    generalize sync.ingest event = outcome at hNext hRefuses hSpec hError
    obtain ⟨answer, next⟩ := outcome
    cases answer with
    | error refusal =>
      cases hError
      exact ⟨sync, hState, hRefuses rfl⟩
    | ok progress =>
      have hOpen : next.state = .awaitingBridge ∨ next.state = .synced := by
        cases hSpec with
        | buffered hOther => simp [hOther] at hState
        | discarded => exact hState
        | bridged => exact .inr rfl
        | applied hSame => exact .inr hSame
      exact ih hNext hOpen hError

theorem Holds.refusesSnapshot (hSync : sync.Holds symbol capacity snapshots heard)
    (hCapacity : 1 ≤ capacity) {snapshot : Snapshot} {error : SyncError}
    (hError : (sync.onSnapshot snapshot).1 = .error error) : sync.RefusesSnapshot error := by
  cases hSync with
  | disconnected =>
    cases hError
    exact .notBegun rfl
  | synced =>
    cases hError
    exact .inStep rfl
  | waiting => cases hError
  | connecting =>
    have hWaiting : Holds symbol capacity [snapshot] [] _ := .waiting (List.mem_singleton_self _)
    obtain ⟨last, hState, hRefuses⟩ := hWaiting.replay_refusal hCapacity (.inl rfl) hError
    cases hRefuses with
    | notBegun hOther => simp [hOther] at hState
    | overflow hOther => simp [hOther] at hState
    | stale => exact .stale _ _ rfl
    | gap => exact .gap _ _ rfl
    | regression => exact .regression _ _ rfl

/-! ## Every run -/

/-- What a synchronizer that buffers up to so many events of a symbol has in its state, after a run
that applied the events of the log. -/
structure InPhase (symbol : String) (capacity : Nat) (log : List DiffEvent) (sync : Synchronizer) :
    Prop where
  disconnected : sync.state = .disconnected → sync.book = none ∧ sync.buffer = []
  connecting : sync.state = .connecting → sync.book = none ∧ sync.buffer.length ≤ capacity
  waiting : sync.state = .awaitingBridge →
    (∃ book, sync.book = some book ∧ book.desynced = false) ∧ sync.buffer = [] ∧
      sync.lastEventTime = none
  synced : sync.state = .synced →
    (∃ book, sync.book = some book ∧ book.desynced = false ∧
      ∃ snapshot session, session <:+ log ∧ Snapshot.BridgedBy snapshot session ∧
        book = (Replica.ofSnapshot symbol snapshot).advanceAll session) ∧
    sync.buffer = [] ∧
    ∃ last, log.getLast? = some last ∧ sync.lastEventTime = some last.eventTime

theorem Holds.inPhase (hSync : sync.Holds symbol capacity snapshots heard)
    (hLogged : sync.Logged symbol log) : sync.InPhase symbol capacity log where
  disconnected hState := by
    cases hSync <;> first | exact ⟨rfl, rfl⟩ | cases hState
  connecting hState := by
    obtain ⟨kept, -, hFit, rfl⟩ := hSync.of_connecting hState
    exact ⟨rfl, hFit⟩
  waiting hState := by
    obtain ⟨snapshot, -, rfl⟩ := hSync.of_waiting hState
    exact ⟨⟨_, rfl, rfl⟩, rfl, rfl⟩
  synced hState := by
    obtain ⟨snapshot, session, hBridged, hSuffix, hBook, hTime⟩ := hLogged hState
    have hBuffer : sync.buffer = [] := by
      obtain ⟨_, -, _, -, -, rfl⟩ := hSync.of_synced hState
      rfl
    have hLive : ((Replica.ofSnapshot symbol snapshot).advanceAll session).desynced = false :=
      Replica.desynced_advanceAll _ session
    have hNe : session ≠ [] := hBridged.ne_nil
    have hLast : log.getLast? = some (session.getLast hNe) := by
      rw [hSuffix.getLast hNe]
      exact List.getLast?_eq_some_getLast _
    refine ⟨⟨_, hBook, hLive, snapshot, session, hSuffix, hBridged, rfl⟩, hBuffer, _, hLast, ?_⟩
    rw [hTime, lastTime?, List.getLast?_eq_some_getLast hNe]
    rfl

/-- **A synchronizer is always in one of four phases.** After any moves, with any events and
snapshots: without a replica its buffer is empty until it begins and within its capacity from then
on; with one the buffer is empty, the replica has refused nothing, and the time beside it is that of
the last event applied since its snapshot. So a replica that waits is never missing, no replica is
out of step, and no event is taken for a bridge that is none: an event or a snapshot is refused only
for being unasked for, for a full buffer, for being too late or for a gap in the ids. -/
theorem inPhase_run (symbol : String) (capacity : Nat) (moves : List Move) :
    ((new symbol capacity).run moves).InPhase symbol (max capacity 1)
      ((new symbol capacity).appliedIn moves) ∧
    (∀ event error, (((new symbol capacity).run moves).ingest event).1 = .error error →
      ((new symbol capacity).run moves).RefusesEvent error) ∧
    (∀ snapshot error, (((new symbol capacity).run moves).onSnapshot snapshot).1 = .error error →
      ((new symbol capacity).run moves).RefusesSnapshot error) := by
  obtain ⟨⟨snapshots, heard, hSync⟩, hLogged⟩ := holds_and_logged_run symbol capacity moves
  exact ⟨hSync.inPhase hLogged, fun _ _ => hSync.refusesEvent,
    fun _ _ => hSync.refusesSnapshot (le_max_right capacity 1)⟩

/-- Two events in a buffer for two, the second of which bridges the snapshot. -/
def bridgedMoves : List Move :=
  [.begin, .ingest ⟨98, 100, 97, 1, [], []⟩, .ingest ⟨100, 103, 100, 2, [⟨"10", "2"⟩], []⟩,
    .snapshot ⟨100, [⟨"10", "1"⟩], []⟩]

/-- The replay ends in step with its last event in the log, and an event behind a gap is refused. -/
theorem inPhase_run_bridgedMoves :
    ((new "BTCUSDT" 2).run bridgedMoves).state = .synced ∧
    (new "BTCUSDT" 2).appliedIn bridgedMoves = [⟨100, 103, 100, 2, [⟨"10", "2"⟩], []⟩] ∧
    ((new "BTCUSDT" 2).run bridgedMoves).InPhase "BTCUSDT" 2
      ((new "BTCUSDT" 2).appliedIn bridgedMoves) ∧
    ((new "BTCUSDT" 2).run bridgedMoves).RefusesEvent (.book (.sequenceGap 103 90)) :=
  have hRun := inPhase_run "BTCUSDT" 2 bridgedMoves
  ⟨by decide +kernel, by decide +kernel, hRun.1,
    hRun.2.1 ⟨104, 18446744073709551615, 90, 3, [], []⟩ _ (by decide +kernel)⟩

end Synchronizer

end MarketGateway.Book
