import Mathlib.Tactic.SplitIfs
import MarketGateway.Book.Synchronizer

/-!
# Steps and runs of synchronizers

`Synchronizer.Ingested` lists the outcomes of one event, with what led to each; `ingest_spec` says
that there are no others. A run is a list of moves (`Synchronizer.run`).
-/

namespace MarketGateway.Book

theorem toNat_nextId_le (id : UInt64) : (nextId id).toNat ≤ id.toNat + 1 := by
  unfold nextId
  split
  · rename_i hFit
    have hFit' : id.toNat + 1 < 18446744073709551616 := hFit
    rw [UInt64.toNat_add]
    exact Nat.mod_le _ _
  · omega

/-- An id with ids above it is not the largest one. -/
theorem toNat_nextId_of_lt {id later : UInt64} (h : id < later) :
    (nextId id).toNat = id.toNat + 1 := by
  have hLt : id.toNat < later.toNat := UInt64.lt_iff_toNat_lt.mp h
  have hBound : later.toNat < 18446744073709551616 := later.toNat_lt
  have hFit : id.toNat + 1 < Nat.pow 2 64 := by
    have hPow : Nat.pow 2 64 = 18446744073709551616 := rfl
    omega
  rw [nextId, if_pos hFit, UInt64.toNat_add]
  exact Nat.mod_eq_of_lt hFit

/-- An event that ends behind a snapshot and does not start too late bridges it. -/
theorem bridges_of_not_stale {event : DiffEvent} {id : UInt64} (hLast : id < event.lastUpdateId)
    (hFirst : ¬ nextId id < event.firstUpdateId) : event.bridges id = true := by
  have hNext := toNat_nextId_of_lt hLast
  simp only [DiffEvent.bridges, Bool.and_eq_true, decide_eq_true_eq, UInt64.le_iff_toNat_le]
  rw [UInt64.lt_iff_toNat_lt] at hLast hFirst
  omega

namespace Synchronizer

/-- The outcomes of one event. -/
inductive Ingested (sync : Synchronizer) (event : DiffEvent) :
    Except SyncError Progress × Synchronizer → Prop
  | stopped (hState : sync.state = .disconnected) :
      Ingested sync event (.error (.unexpectedInput .diff .disconnected), sync)
  | overflow (hState : sync.state = .connecting) (hFull : sync.capacity ≤ sync.buffer.length) :
      Ingested sync event (.error (.bufferOverflow sync.capacity), sync.reset)
  | buffered (hState : sync.state = .connecting) (hRoom : sync.buffer.length < sync.capacity) :
      Ingested sync event (.ok .buffered, { sync with buffer := sync.buffer ++ [event] })
  | bookless (hState : sync.state = .awaitingBridge) (hBook : sync.book = none) :
      Ingested sync event (.error (.unexpectedInput .diff .awaitingBridge), sync)
  | discarded {book : Replica} (hState : sync.state = .awaitingBridge)
      (hBook : sync.book = some book) (hOld : event.lastUpdateId ≤ book.lastUpdateId) :
      Ingested sync event (.ok .discarded, sync)
  | stale {book : Replica} (hState : sync.state = .awaitingBridge)
      (hBook : sync.book = some book) (hLast : book.lastUpdateId < event.lastUpdateId)
      (hFirst : nextId book.lastUpdateId < event.firstUpdateId) :
      Ingested sync event
        (.error (.staleSnapshot book.lastUpdateId event.firstUpdateId),
          { sync with book := none, state := .connecting, buffer := sync.buffer ++ [event] })
  | bridged {book : Replica} (hState : sync.state = .awaitingBridge)
      (hBook : sync.book = some book) (hLive : book.desynced = false)
      (hLast : book.lastUpdateId < event.lastUpdateId)
      (hFirst : event.firstUpdateId ≤ nextId book.lastUpdateId) :
      Ingested sync event
        (.ok .bridged,
          { sync with
            book := some (book.advance event), state := .synced,
            lastEventTime := some event.eventTime })
  | bridgeRefused {book : Replica} (hState : sync.state = .awaitingBridge)
      (hBook : sync.book = some book) (hLast : book.lastUpdateId < event.lastUpdateId)
      (hDesynced : book.desynced = true) :
      Ingested sync event (.error (.book .desynced), sync.reset)
  | applied {book : Replica} (hState : sync.state = .synced) (hBook : sync.book = some book)
      (hLive : book.desynced = false) (hLink : event.prevLastUpdateId = book.lastUpdateId)
      (hLast : book.lastUpdateId ≤ event.lastUpdateId) :
      Ingested sync event
        (.ok .applied,
          { sync with
            book := some (book.advance event), lastEventTime := some event.eventTime })
  | refused (error : BookError) (hState : sync.state = .synced) :
      Ingested sync event (.error (.book error), sync.reset)

theorem tryBridge_spec {sync : Synchronizer} (hState : sync.state = .awaitingBridge)
    (event : DiffEvent) : Ingested sync event (sync.tryBridge event) := by
  unfold tryBridge
  split
  · rename_i hBook
    rw [hState]
    exact .bookless hState hBook
  · rename_i book hBook
    split
    · rename_i hOld
      exact .discarded hState hBook hOld
    · rename_i hNew
      have hLast : book.lastUpdateId < event.lastUpdateId := UInt64.not_le.mp hNew
      split
      · rename_i hFirst
        exact .stale hState hBook hLast hFirst
      · rename_i hFirst
        have hBridges := bridges_of_not_stale hLast hFirst
        cases hDesynced : book.desynced with
        | true =>
          simp only [Replica.applyBridge, hDesynced, if_true]
          exact .bridgeRefused hState hBook hLast hDesynced
        | false =>
          simp only [Replica.applyBridge, hDesynced, Bool.false_eq_true, if_false, hBridges,
            Bool.not_true]
          exact .bridged hState hBook hDesynced hLast (UInt64.not_lt.mp hFirst)

theorem applySteady_spec {sync : Synchronizer} (hState : sync.state = .synced)
    (event : DiffEvent) : Ingested sync event (sync.applySteady event) := by
  unfold applySteady
  split
  · exact .refused _ hState
  · rename_i book hBook
    unfold Replica.applyDiff
    split_ifs with hDesynced hLink hLast
    · exact .refused _ hState
    · exact .refused _ hState
    · exact .refused _ hState
    · exact .applied hState hBook (by simpa using hDesynced) (Decidable.not_not.mp hLink)
        (UInt64.not_lt.mp hLast)

theorem ingest_spec (sync : Synchronizer) (event : DiffEvent) :
    Ingested sync event (sync.ingest event) := by
  unfold ingest
  split
  · rename_i hState
    rw [hState]
    exact .stopped hState
  · rename_i hState
    split
    · rename_i hFull
      exact .overflow hState hFull
    · rename_i hRoom
      exact .buffered hState (Nat.lt_of_not_le hRoom)
  · rename_i hState
    exact tryBridge_spec hState event
  · rename_i hState
    exact applySteady_spec hState event

/-! ## Runs -/

/-- One thing that is done with a synchronizer. -/
inductive Move
  | begin
  | reset
  | bridgeTimeout
  | snapshot (snapshot : Snapshot)
  | ingest (event : DiffEvent)

def step (sync : Synchronizer) : Move → Synchronizer
  | .begin => sync.begin
  | .reset => sync.reset
  | .bridgeTimeout => sync.onBridgeTimeout
  | .snapshot snapshot => (sync.onSnapshot snapshot).2
  | .ingest event => (sync.ingest event).2

/-- The synchronizer after a list of moves, whatever they answer. -/
def run (sync : Synchronizer) (moves : List Move) : Synchronizer := moves.foldl step sync

end Synchronizer

end MarketGateway.Book
